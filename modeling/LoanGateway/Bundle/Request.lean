import LoanGateway.Bundle.Message

/-!
# Bundles

A bundle is a list of messages that the backend carries out together.

- `Bundle`: the messages and the envelope around them.
- `Bundle.ofMessages`: a bundle with the usual envelope.
- `Bundle.resource`: the resource whose absence a bundle would meet.
- `Bundle.isHomogeneous`: whether all messages are of one kind.
-/

namespace LoanGateway

/-- Messages and their envelope. The queue is sent in the address and not in the body. -/
structure Bundle where
  portfolio : String
  initialStatus : Nat
  initiator : String
  asApiUser : Bool
  postingDate : Option Date
  messages : List Message
  queue : Option String

namespace Bundle

/-- A bundle with the usual envelope. -/
def ofMessages (messages : List Message) : Bundle where
  portfolio := "E1"
  initialStatus := 3
  initiator := "APIUKEF"
  asApiUser := false
  postingDate := none
  messages := messages
  queue := none

/-- The resource of the first message; an empty bundle counts as one about a facility. -/
def resource (b : Bundle) : Resource :=
  match b.messages with
  | [] => .facility
  | first :: _ => first.resource

/-- Whether all messages are of the kind of the first one. -/
def isHomogeneous (b : Bundle) : Bool :=
  match b.messages with
  | [] => true
  | first :: rest => rest.all (·.kind == first.kind)

/-- Whether two bundles are equal. -/
def agrees (a b : Bundle) : Bool :=
  a.portfolio == b.portfolio && a.initialStatus == b.initialStatus &&
    a.initiator == b.initiator && a.asApiUser == b.asApiUser &&
    a.postingDate == b.postingDate && a.messages.length == b.messages.length &&
    (a.messages.zip b.messages).all (fun (m, n) => m.agrees n) && a.queue == b.queue

end Bundle

end LoanGateway
