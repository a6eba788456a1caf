import LoanGateway.Duration
import LoanGateway.Failure.Transport
import LoanGateway.Json.Printer
import LoanGateway.Text.Lowercase

/-!
# Requests

- `Request`: what is sent. Header names are kept in lowercase, each once.
- `Request.header`: sets a header in place of one whose name is equal in lowercase.
- `Payload`: a value to send as the body, or the reason why it cannot be written as JSON.
- `Request.json`: sets the body and the content type.
-/

namespace LoanGateway

inductive Method
  | get
  | post
  | put
  deriving DecidableEq

def Method.name : Method → String
  | get => "GET"
  | post => "POST"
  | put => "PUT"

/-- Headers of a request: names in lowercase, no name twice. -/
abbrev Headers := List (String × String)

/-- A value to send, or the reason why it has no JSON text. -/
abbrev Payload := Except String Json

/-- A request to the backend or to the identity provider. -/
structure Request where
  method : Method
  url : String
  headers : Headers
  bearer : Option String
  body : Option String
  timeout : Option Duration
  deriving DecidableEq

namespace Request

/-- A request without headers, body and token. -/
def new (method : Method) (url : String) : Request := ⟨method, url, [], none, none, none⟩

/-- Sets a header. One whose name has the same lowercase form is replaced. -/
def header (r : Request) (name value : String) : Request :=
  let name := Text.lowercaseString name
  { r with headers := r.headers.filter (·.1 ≠ name) ++ [(name, value)] }

/-- The value of a header, by its lowercase name. -/
def header? (r : Request) (name : String) : Option String := r.headers.lookup name

def withBearer (r : Request) (token : String) : Request := { r with bearer := some token }

def withTimeout (r : Request) (limit : Duration) : Request := { r with timeout := some limit }

/-- Sets the body and the content type. -/
def withJson (r : Request) (value : Json) : Request :=
  { r with body := some value.text }.header "content-type" "application/json"

/-- Sets the body and the content type, unless the value has no JSON text. -/
def json (r : Request) : Payload → Except TransportFault Request
  | .ok value => .ok (r.withJson value)
  | .error reason => .error (.unwritableBody reason)

end Request

end LoanGateway
