import LoanGateway.Failure.SignIn
import LoanGateway.Token.Cache

/-!
# What handshakes leave behind

Calls for a token share a memory. It holds the token while it is fresh, and the failure of the
latest handshake for those who waited for its end.

- `Memory`: the cache, the latest failure, and how many handshakes are over.
- `Memory.commit`: the end of a handshake.
- `Memory.known?`: what a call can be told without a handshake of its own.
-/

namespace LoanGateway

/-- What calls for a token share. -/
structure Memory where
  cache : TokenCache
  failure : Option SignInError
  completed : Nat
  deriving DecidableEq

namespace Memory

/-- The memory before any handshake. -/
def empty (ttl : Duration) : Memory := ⟨.empty ttl, none, 0⟩

/-- The end of a handshake. A failed one leaves the cache as it was. -/
def commit (m : Memory) (now : Instant) : Except SignInError String → Memory
  | .ok token => ⟨m.cache.store token now, none, m.completed + 1⟩
  | .error e => ⟨m.cache, some e, m.completed + 1⟩

/-- What a call can be told that counted `seen` handshakes when it came: a fresh token, or else the
failure of a handshake that ended since. -/
def known? (m : Memory) (now : Instant) (seen : Nat) : Option (Except SignInError String) :=
  match m.cache.valid? now with
  | some token => some (.ok token)
  | none => if m.completed = seen then none else m.failure.map .error

/-- Drops the token. -/
def invalidate (m : Memory) : Memory := { m with cache := m.cache.invalidate }

@[simp] theorem completed_commit (m : Memory) (now : Instant) (r : Except SignInError String) :
    (m.commit now r).completed = m.completed + 1 := by
  cases r <;> rfl

@[simp] theorem cache_commit_error (m : Memory) (now : Instant) (e : SignInError) :
    (m.commit now (.error e)).cache = m.cache := rfl

/-- Without a token and without a handshake since, nothing is known. -/
theorem known?_completed (m : Memory) (now : Instant) (h : m.cache.valid? now = none) :
    m.known? now m.completed = none := by
  simp [known?, h]

end Memory

end LoanGateway
