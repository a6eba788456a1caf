import LoanGateway.Retry.Execution
import LoanGateway.Retry.Policy
import LoanGateway.Token.Source

/-!
# Token sources that repeat attempts

- `Retrying`: a source with a policy that repeats its attempts, and the counts of what it did.
- `Retrying.execution`: the attempts that one call for a token takes.
-/

namespace LoanGateway

open Retry

/-- A source whose attempts are repeated. Its clock shows the time that it has waited. -/
structure Retrying (σ : Type) where
  policy : Policy
  inner : σ
  stats : Stats
  now : Instant

namespace Retrying

variable {σ : Type}

/-- A source whose attempts are repeated by a policy from now on. -/
def new (policy : Policy) (inner : σ) : Retrying σ := ⟨policy, inner, .none, ⟨0⟩⟩

variable [TokenSource σ]

/-- The attempts to obtain a token. Waits are as long as they are on average. -/
def execution (r : Retrying σ) : Execution σ String :=
  execute r.policy.attempts (r.policy.delay 0) TokenSource.obtain r.inner

def obtain (r : Retrying σ) : Except SignInError String × Retrying σ :=
  let e := r.execution
  (e.outcome, { r with inner := e.state, stats := r.stats.add e, now := e.finish r.now })

def invalidate (r : Retrying σ) : Retrying σ := { r with inner := TokenSource.invalidate r.inner }

end Retrying

instance {σ : Type} [TokenSource σ] : TokenSource (Retrying σ) :=
  ⟨Retrying.obtain, Retrying.invalidate⟩

end LoanGateway
