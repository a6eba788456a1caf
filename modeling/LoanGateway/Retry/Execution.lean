import LoanGateway.Duration
import LoanGateway.Failure.SignIn

/-!
# Repeated attempts

- `Retry.Execution`: the attempts at an operation up to the one that counts.
- `Retry.execute`: repeats an operation after transient failures, a limited number of times.
- `Retry.Stats`: what a series of executions amounts to.
-/

namespace LoanGateway.Retry

/-- The attempts at an operation: the outcome of the last one, the state it left, and the time
waited after each of the others. -/
structure Execution (σ α : Type) where
  outcome : Except SignInError α
  state : σ
  waits : List Duration

namespace Execution

variable {σ α : Type}

/-- How many attempts were made. -/
def attempts (e : Execution σ α) : Nat := e.waits.length + 1

/-- The execution with a failed attempt and a wait in front. -/
def after (e : Execution σ α) (wait : Duration) : Execution σ α :=
  { e with waits := wait :: e.waits }

/-- The instants at which attempts began, given the waits between them. -/
def startsFrom (start : Instant) : List Duration → List Instant
  | [] => [start]
  | wait :: rest => start :: startsFrom (start.after wait) rest

/-- When each attempt began, if the first one began at `start`. -/
def starts (e : Execution σ α) (start : Instant) : List Instant := startsFrom start e.waits

/-- When the last attempt was over, if the first one began at `start`. Attempts take no time. -/
def finish (e : Execution σ α) (start : Instant) : Instant := e.waits.foldl Instant.after start

end Execution

variable {σ α : Type}

/-- Makes an attempt, and after a transient failure up to `more` further ones. The attempt has the
number `attempt`, and `wait` tells how long to wait after it. -/
def executeFrom (wait : Nat → Duration) (operation : σ → Except SignInError α × σ) :
    (more attempt : Nat) → σ → Execution σ α
  | 0, _, s => ⟨(operation s).1, (operation s).2, []⟩
  | more + 1, attempt, s =>
    match operation s with
    | (.ok a, t) => ⟨.ok a, t, []⟩
    | (.error e, t) =>
      if e.isTransient then (executeFrom wait operation more (attempt + 1) t).after (wait attempt)
      else ⟨.error e, t, []⟩

/-- Makes at most `attempts` attempts, and one at least. -/
def execute (attempts : Nat) (wait : Nat → Duration) (operation : σ → Except SignInError α × σ)
    (s : σ) : Execution σ α :=
  executeFrom wait operation (attempts - 1) 0 s

/-- Counts over a series of executions: attempts, executions that succeeded after a failed attempt,
and executions that failed. -/
structure Stats where
  attempts : Nat
  recovered : Nat
  failed : Nat
  deriving DecidableEq

namespace Stats

def none : Stats := ⟨0, 0, 0⟩

/-- The counts after one more execution. -/
def add (s : Stats) (e : Execution σ α) : Stats :=
  match e.outcome with
  | .ok _ => { s with
      attempts := s.attempts + e.attempts
      recovered := s.recovered + if e.waits.isEmpty then 0 else 1 }
  | .error _ => { s with attempts := s.attempts + e.attempts, failed := s.failed + 1 }

end Stats

/-! ## Small facts -/

@[simp] theorem attempts_after (e : Execution σ α) (wait : Duration) :
    (e.after wait).attempts = e.attempts + 1 := rfl

/-- A single attempt is the operation itself. -/
theorem executeFrom_zero (wait : Nat → Duration) (operation : σ → Except SignInError α × σ)
    (attempt : Nat) (s : σ) :
    executeFrom wait operation 0 attempt s = ⟨(operation s).1, (operation s).2, []⟩ := rfl

/-- An outcome that is no transient failure ends the attempts. -/
theorem executeFrom_of_final {wait : Nat → Duration} {operation : σ → Except SignInError α × σ}
    {more attempt : Nat} {s t : σ} {r : Except SignInError α} (makes : operation s = (r, t))
    (final : ∀ e, r = .error e → ¬ e.isTransient) :
    executeFrom wait operation more attempt s = ⟨r, t, []⟩ := by
  cases more with
  | zero => rw [executeFrom, makes]
  | succ more =>
    rw [executeFrom, makes]
    cases r with
    | ok x => rfl
    | error e => exact if_neg (final e rfl)

/-- After a transient failure the other attempts follow. -/
theorem executeFrom_of_transient {wait : Nat → Duration}
    {operation : σ → Except SignInError α × σ} {more attempt : Nat} {s t : σ} {e : SignInError}
    (makes : operation s = (.error e, t)) (transient : e.isTransient) :
    executeFrom wait operation (more + 1) attempt s =
      (executeFrom wait operation more (attempt + 1) t).after (wait attempt) := by
  rw [executeFrom, makes]
  exact if_pos transient

/-- No more attempts are made than allowed. -/
theorem attempts_executeFrom_le (wait : Nat → Duration) (operation : σ → Except SignInError α × σ)
    (more attempt : Nat) (s : σ) :
    (executeFrom wait operation more attempt s).attempts ≤ more + 1 := by
  induction more generalizing attempt s with
  | zero => simp [executeFrom, Execution.attempts]
  | succ more ih =>
    unfold executeFrom
    split
    · simp [Execution.attempts]
    · split
      · have := ih (attempt + 1)
        rw [attempts_after]
        exact Nat.succ_le_succ (this _)
      · simp [Execution.attempts]

end LoanGateway.Retry
