import LoanGateway.Failure.SignIn

/-!
# Errors of the gateway

Every operation of the gateway ends with a value or with one of four errors.

- `GatewayError`: the four errors.
- `GatewayError.code`, `GatewayError.httpStatus`: what monitoring and the outer boundary see.
- `GatewayError.publicMessage`: what an outside caller may read. Only a bad request keeps its
  detail there.
-/

namespace LoanGateway

/-- Why an operation of the gateway failed. -/
inductive GatewayError
  | authentication (error : SignInError)
  | notFound (detail : Option String)
  | badRequest (detail : String)
  | internal (detail : String)
  deriving DecidableEq

namespace GatewayError

def message : GatewayError → String
  | authentication error => error.message
  | notFound _ => "Resource not found"
  | badRequest detail => "Bad request: " ++ detail
  | internal detail => "Internal server error: " ++ detail

def code : GatewayError → String
  | authentication _ => "ACBS_AUTHENTICATION"
  | notFound _ => "ACBS_NOT_FOUND"
  | badRequest _ => "ACBS_BAD_REQUEST"
  | internal _ => "ACBS_INTERNAL"

/-- The status to answer an outside caller with. A failed sign-in is not the caller's fault. -/
def httpStatus : GatewayError → Nat
  | notFound _ => 404
  | badRequest _ => 400
  | authentication _ | internal _ => 500

/-- The text that is safe to show to an outside caller. -/
def publicMessage : GatewayError → String
  | notFound _ => "Not found"
  | badRequest detail => "Bad request: " ++ detail
  | authentication _ | internal _ => "Internal server error"

def isNotFound : GatewayError → Bool
  | notFound _ => true
  | _ => false

end GatewayError

end LoanGateway
