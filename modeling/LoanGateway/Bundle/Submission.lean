import LoanGateway.Backend.Identifier
import LoanGateway.Backend.Verdict
import LoanGateway.Bundle.Encoding
import LoanGateway.Http.Wire
import LoanGateway.Settings.Backend

/-!
# Submission of bundles

- `Receipt`: what a submitted bundle is known by from now on.
- `Bundle.submission`: the request that submits a bundle.
- `Submission.receipt`: what the answer to it means.
- `Bundle.submit`: submits a bundle over a wire.
-/

namespace LoanGateway

/-- The identifier of a submitted bundle, with a warning if there was one. -/
structure Receipt where
  identifier : String
  warning : Option String
  deriving DecidableEq

namespace Submission

/-- The path of the resource that takes bundles. -/
def path : String := "BundleInformation"

/-- The parameter that names the queue. -/
def queueParameter : String := "servicingQueueIdentifier"

/-- The header that holds a warning. -/
def warningHeader : String := "processing-warning"

/-- The field of the body that holds the identifier. -/
def identifierField : String := "BundleIdentifier"

/-- The error of a bundle without messages. -/
def emptyBundle : GatewayError := .badRequest "Bundle must contain at least one message"

/-- The error of an answer without an identifier. -/
def identifierMissing : GatewayError := .internal "backend did not return a bundle identifier"

/-- The identifier of a successful answer: the one in its address, or else the one in its body. -/
def identifier? (settings : BackendSettings) (response : Response) : Option String :=
  ((response.header? "location").bind (Backend.locationIdentifier? settings.baseUrl)).or
    (Backend.bodyIdentifier? identifierField response.body)

/-- What an answer means, given the phrases that mean "not found". -/
def receipt (settings : BackendSettings) (phrases : List String) (reply : Reply) :
    Except GatewayError Receipt :=
  match reply.accepted with
  | .error failure => .error (Backend.failureVerdict phrases failure)
  | .ok response =>
    match identifier? settings response with
    | some identifier => .ok ⟨identifier, response.header? warningHeader⟩
    | none => .error identifierMissing

end Submission

namespace Bundle

/-- Where the bundle is submitted. -/
def submissionUrl (settings : BackendSettings) (b : Bundle) : Url :=
  let url := settings.urlFor Submission.path
  match b.queue with
  | some queue => url.addPair Submission.queueParameter.toList queue.toList
  | none => url

/-- The request that submits the bundle. -/
def submission (settings : BackendSettings) (b : Bundle) (token : String) : Request :=
  ((Request.new .post (b.submissionUrl settings).text).withBearer token).withJson b.toJson

/-- Submits a bundle. One without messages is not sent. -/
def submit (settings : BackendSettings) (b : Bundle) (token : String) (phrases : List String)
    (wire : Wire) : Except GatewayError Receipt × Wire :=
  if b.messages.isEmpty then (.error Submission.emptyBundle, wire)
  else
    let (reply, wire) := wire.send (b.submission settings token)
    (Submission.receipt settings phrases reply, wire)

end Bundle

end LoanGateway
