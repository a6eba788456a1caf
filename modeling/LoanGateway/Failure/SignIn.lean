import LoanGateway.Failure.Transport

/-!
# Failed exchanges and failed sign-ins

- `ExchangeFailure`: a request that was answered with a status of failure, or not at all.
- `SignInError`: why the handshake with the identity provider gave no token.
- `SignInError.isTransient`: whether another handshake could succeed.
-/

namespace LoanGateway

/-- A request without a successful answer. -/
inductive ExchangeFailure
  | refused (status : Nat) (body : String)
  | transport (fault : TransportFault)
  deriving DecidableEq

namespace ExchangeFailure

def message : ExchangeFailure → String
  | refused status _ => "Backend responded with status " ++ toString status
  | transport fault => fault.message

/-- The status of the answer, if there was one. -/
def status? : ExchangeFailure → Option Nat
  | refused status _ => some status
  | transport _ => none

/-- A server that failed or asked for fewer requests may answer later. -/
def isTransient : ExchangeFailure → Bool
  | refused status _ => 500 ≤ status || status == 429
  | transport fault => fault.isTransient

end ExchangeFailure

/-- Why a handshake gave no token. -/
inductive SignInError
  | sessionRefused (cause : ExchangeFailure)
  | cookieMissing
  | tokenRefused (cause : ExchangeFailure)
  | tokenMissing
  deriving DecidableEq

namespace SignInError

/-- The description of an error. It says which half of the handshake failed and nothing of what the
identity provider answered. -/
def message : SignInError → String
  | sessionRefused _ => "Failed to create a session with the identity provider."
  | cookieMissing => "Session cookie was not returned by the identity provider."
  | tokenRefused _ => "Failed to get a token from the identity provider."
  | tokenMissing => "ID token was not returned by the identity provider."

/-- The failed exchange behind the error, if there is one. -/
def cause? : SignInError → Option ExchangeFailure
  | sessionRefused cause | tokenRefused cause => some cause
  | cookieMissing | tokenMissing => none

/-- Only a failed exchange is worth repeating, and only if it was transient itself. -/
def isTransient (e : SignInError) : Bool :=
  match e.cause? with
  | some cause => cause.isTransient
  | none => false

end SignInError

end LoanGateway
