import LoanGateway.Duration

/-!
# Faults of the transport

Why a request got no answer.

- `TransportFault`: the causes.
- `TransportFault.message`: their wording.
- `TransportFault.isTransient`: whether sending the same request again could get an answer.
-/

namespace LoanGateway

/-- Why a request got no answer. -/
inductive TransportFault
  | connectionFailed (reason : String)
  | timeout (limit : Duration)
  | tooManyRedirects (reason : String)
  | requestFailed (reason : String)
  | invalidResponse (reason : String)
  deriving DecidableEq

namespace TransportFault

def message : TransportFault → String
  | connectionFailed reason => "Connection failed: " ++ reason
  | timeout limit => "Request timeout after " ++ limit.text
  | tooManyRedirects reason => "Too many redirects: " ++ reason
  | requestFailed reason => "Request failed: " ++ reason
  | invalidResponse reason => "Invalid response: " ++ reason

/-- Only a connection that failed and an answer that came too late may go better next time. -/
def isTransient : TransportFault → Bool
  | connectionFailed _ | timeout _ => true
  | tooManyRedirects _ | requestFailed _ | invalidResponse _ => false

/-- The fault of a body that cannot be written as JSON. -/
def unwritableBody (reason : String) : TransportFault :=
  requestFailed ("Failed to serialize request body: " ++ reason)

end TransportFault

end LoanGateway
