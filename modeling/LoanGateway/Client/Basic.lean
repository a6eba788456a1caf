import LoanGateway.Bundle.Submission
import LoanGateway.Client.Desk
import LoanGateway.Token.Source

/-!
# The client

The client reads and writes resources of the backend and submits bundles to it, each time with a
valid token.

- `Client`: the settings, the wire to the backend, the source of tokens, and the desk that takes
  bundles.
- `Client.exchange`: one request with a token. A refused token is forgotten.
- `Client.get`, `Client.post`, `Client.put`: reads, creates and replaces a resource.
- `Client.submitFor`, `Client.submit`: submits a bundle.
-/

namespace LoanGateway

/-- Whether the backend does not accept the token. -/
def Reply.refusesToken : Reply → Bool
  | .ok response => response.status = 401
  | .error _ => false

/-- A client of the backend. -/
structure Client (σ : Type) where
  settings : BackendSettings
  wire : Wire
  source : σ
  desk : Desk

namespace Client

variable {σ : Type} [TokenSource σ]

/-- A client over which nothing was sent, with the usual desk. -/
def new (settings : BackendSettings) (source : σ) : Client σ :=
  ⟨settings, .ofReplies [], source, .direct⟩

/-- A valid token. -/
def token (c : Client σ) : Except GatewayError String × Client σ :=
  match TokenSource.obtain c.source with
  | (.ok token, source) => (.ok token, { c with source })
  | (.error e, source) => (.error (.authentication e), { c with source })

/-- Forgets the token if the backend does not accept it. -/
def heed (c : Client σ) (reply : Reply) : Client σ :=
  if reply.refusesToken then { c with source := TokenSource.invalidate c.source } else c

/-- The response of a successful exchange, or the error that the reply means. -/
def accept (phrases : List String) (reply : Reply) : Except GatewayError Response :=
  match reply.accepted with
  | .ok response => .ok response
  | .error failure => .error (Backend.failureVerdict phrases failure)

/-- Sends a request with a valid token. -/
def exchange (c : Client σ) (request : Request) (phrases : List String) :
    Except GatewayError Response × Client σ :=
  match c.token with
  | (.error e, c) => (.error e, c)
  | (.ok token, c) =>
    let (reply, wire) := c.wire.send (request.withBearer token)
    (accept phrases reply, { c with wire }.heed reply)

/-- The value of a successful response to a reading. `null` and texts are no values, and `decode`
may refuse any other. -/
def readAnswer {α : Type} (decode : Json → Option α) (phrases : List String)
    (response : Response) : Except GatewayError α :=
  match Body.read response.body with
  | .structured value =>
    match decode value with
    | some a => .ok a
    | none => .error (.internal Backend.unexpectedAnswer)
  | _ => .error (Backend.verdict response.status response.body phrases)

/-- Reads a resource. -/
def get {α : Type} (c : Client σ) (path : String) (resource : Resource) (decode : Json → Option α) :
    Except GatewayError α × Client σ :=
  let phrases := resource.absencePhrases
  let (result, c) := c.exchange (Request.new .get (c.settings.urlFor path).text) phrases
  (result.bind (readAnswer decode phrases), c)

/-- Sends a body to a resource. One that cannot be written is not sent, and then no token is asked
for. -/
def send (c : Client σ) (method : Method) (path : String) (body : Payload) (resource : Resource) :
    Except GatewayError Response × Client σ :=
  match (Request.new method (c.settings.urlFor path).text).json body with
  | .error fault => (.error (.internal fault.message), c)
  | .ok request => c.exchange request resource.absencePhrases

/-- Creates a resource. The answer may tell its identifier. -/
def post (c : Client σ) (path : String) (body : Payload) (resource : Resource) :
    Except GatewayError (Option String) × Client σ :=
  let base := c.settings.baseUrl
  let (result, c) := c.send .post path body resource
  (result.map fun response =>
    (response.header? "location").bind (Backend.locationIdentifier? base), c)

/-- Replaces a resource. -/
def put (c : Client σ) (path : String) (body : Payload) (resource : Resource) :
    Except GatewayError Unit × Client σ :=
  let (result, c) := c.send .put path body resource
  (result.map fun _ => (), c)

/-- Submits a bundle about a resource. No token is asked for if the bundle has no messages. -/
def submitFor (c : Client σ) (bundle : Bundle) (resource : Resource) :
    Except GatewayError Receipt × Client σ :=
  if bundle.messages.isEmpty then (.error Submission.emptyBundle, c)
  else
    match c.token with
    | (.error e, c) => (.error e, c)
    | (.ok token, c) =>
      let (result, desk, wire) :=
        c.desk.submit c.settings bundle token resource.absencePhrases c.wire
      (result, { c with desk, wire })

/-- Submits a bundle about the resource of its first message. -/
def submit (c : Client σ) (bundle : Bundle) : Except GatewayError Receipt × Client σ :=
  c.submitFor bundle bundle.resource

end Client

end LoanGateway
