import LoanGateway.Bundle.Submission

/-!
# Desks

A desk takes bundles. The usual one sends them to the backend; another one has its outcomes in
advance and keeps what it was handed.

- `Desk`: the two kinds of desks.
- `Desk.submit`: hands in a bundle.
-/

namespace LoanGateway

/-- What takes bundles. -/
inductive Desk
  | direct
  | scripted (outcomes : List (Except GatewayError Receipt)) (taken : List (Bundle × String))

namespace Desk

/-- The outcome when no other is left. -/
def exhausted : GatewayError := .internal "No mock bundle outcome available"

/-- Bundles handed in, each with its token, as far as the desk keeps them. -/
def taken : Desk → List (Bundle × String)
  | direct => []
  | scripted _ taken => taken

/-- Hands in a bundle with a token. -/
def submit (desk : Desk) (settings : BackendSettings) (bundle : Bundle) (token : String)
    (phrases : List String) (wire : Wire) : Except GatewayError Receipt × Desk × Wire :=
  match desk with
  | direct =>
    let (result, wire) := bundle.submit settings token phrases wire
    (result, direct, wire)
  | scripted outcomes taken =>
    (outcomes.head?.getD (.error exhausted), scripted outcomes.tail (taken ++ [(bundle, token)]),
      wire)

end Desk

end LoanGateway
