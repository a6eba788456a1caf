import LoanGateway.Session.Handshake
import LoanGateway.Session.Memory
import LoanGateway.Token.Source

/-!
# Authenticators

An authenticator answers calls for a token, one at a time.

- `Authenticator`: the settings, the memory, the clock, and the wire to the identity provider.
- `Authenticator.obtain`: a fresh token from the memory, or else the outcome of a handshake.
-/

namespace LoanGateway

/-- Answers calls for a token. -/
structure Authenticator where
  settings : IdentitySettings
  memory : Memory
  now : Instant
  wire : Wire

namespace Authenticator

/-- An authenticator that has done nothing yet. -/
def new (settings : IdentitySettings) (replies : List Reply) : Authenticator :=
  ⟨settings, .empty settings.tokenTtl, ⟨0⟩, .ofReplies replies⟩

/-- A fresh token from the memory, or else the outcome of a handshake. -/
def obtain (a : Authenticator) : Except SignInError String × Authenticator :=
  match a.memory.cache.valid? a.now with
  | some token => (.ok token, a)
  | none =>
    let (outcome, wire) := Handshake.perform a.settings a.wire
    (outcome, { a with wire, memory := a.memory.commit a.now outcome })

def invalidate (a : Authenticator) : Authenticator := { a with memory := a.memory.invalidate }

/-- Time passes. -/
def advance (a : Authenticator) (d : Duration) : Authenticator := { a with now := a.now.after d }

/-- A fresh token is served again without a request. -/
theorem obtain_of_valid (a : Authenticator) (token : String)
    (h : a.memory.cache.valid? a.now = some token) : a.obtain = (.ok token, a) := by
  simp [obtain, h]

/-- Without a fresh token the outcome is that of a handshake. -/
theorem obtain_of_none {a : Authenticator} (h : a.memory.cache.valid? a.now = none) :
    a.obtain = ((Handshake.perform a.settings a.wire).1,
      { a with
        wire := (Handshake.perform a.settings a.wire).2
        memory := a.memory.commit a.now (Handshake.perform a.settings a.wire).1 }) := by
  simp only [obtain, h]

/-- Calls take no time. -/
@[simp] theorem now_obtain (a : Authenticator) : a.obtain.2.now = a.now := by
  unfold obtain
  split <;> rfl

end Authenticator

instance : TokenSource Authenticator := ⟨Authenticator.obtain, Authenticator.invalidate⟩

end LoanGateway
