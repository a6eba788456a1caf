import LoanGateway.Http.Request
import LoanGateway.Http.Response
import LoanGateway.Failure.SignIn

/-!
# Wires

A wire is a transport whose answers are given in advance. It keeps what was sent over it.

- `Wire.send`: sends a request and takes the next answer; a wire that has run out of answers fails
  to connect.
- `Reply.accepted`: the response of a successful exchange, or why it was none.
-/

namespace LoanGateway

/-- What a request gets: a response, or a fault of the transport. -/
abbrev Reply := Except TransportFault Response

namespace Reply

/-- The response of a request that succeeded; any other status is a failure too. -/
def accepted : Reply → Except ExchangeFailure Response
  | .ok response =>
    if response.isSuccess then .ok response else .error (.refused response.status response.body)
  | .error fault => .error (.transport fault)

end Reply

/-- Answers to come and requests sent so far. -/
structure Wire where
  replies : List Reply
  sent : List Request

namespace Wire

/-- A wire over which nothing was sent. -/
def ofReplies (replies : List Reply) : Wire := ⟨replies, []⟩

/-- Adds answers behind those to come. -/
def queue (w : Wire) (replies : List Reply) : Wire := { w with replies := w.replies ++ replies }

/-- The answer when none is left. -/
def exhausted : Reply := .error (.connectionFailed "No mock response available")

/-- Sends a request and takes the next answer. -/
def send (w : Wire) (request : Request) : Reply × Wire :=
  (w.replies.head?.getD exhausted, ⟨w.replies.tail, w.sent ++ [request]⟩)

end Wire

end LoanGateway
