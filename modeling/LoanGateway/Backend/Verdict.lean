import LoanGateway.Backend.Body
import LoanGateway.Failure.Gateway
import LoanGateway.Json.Printer
import LoanGateway.Text.Occurrence

/-!
# Verdicts on backend answers

The backend has several ways to say that a resource does not exist. A verdict turns an answer that
was not accepted into the error that it means.

- `mentions`: whether a text holds one of some phrases.
- `verdict`: the error of a status and a body, given the phrases that mean "not found".
- `failureVerdict`: the error of a failed exchange.
-/

namespace LoanGateway.Backend

/-- The detail of an answer that cannot be made sense of. -/
def unexpectedAnswer : String := "unexpected response from backend"

/-- Whether the text holds one of the phrases. -/
def mentions (text : String) (phrases : List String) : Bool :=
  phrases.any fun phrase => Text.occursIn phrase.toList text.toList

/-- The error of a bad request: a text with one of the phrases means that the resource is absent.
Other values are never searched. -/
def badRequestVerdict (phrases : List String) : Body → GatewayError
  | .text s => if mentions s phrases then .notFound (some s) else .badRequest s
  | .null => .badRequest "null"
  | .structured value => .badRequest value.text

/-- The error that an answer means: `null` with status 200 is an absent resource, status 400 is
decided by the body, and everything else is a fault of the backend. -/
def verdict (status : Nat) (body : String) (phrases : List String) : GatewayError :=
  match status, Body.read body with
  | 200, .null => .notFound (some "backend returned null")
  | 200, _ => .internal unexpectedAnswer
  | 400, read => badRequestVerdict phrases read
  | _, _ => .internal ("backend responded with status " ++ toString status)

/-- The error that a failed exchange means. -/
def failureVerdict (phrases : List String) : ExchangeFailure → GatewayError
  | .refused status body => verdict status body phrases
  | .transport fault => .internal fault.message

end LoanGateway.Backend
