import LoanGateway.Http.Wire
import LoanGateway.Session.Cookie
import LoanGateway.Settings.Identity
import LoanGateway.Token.Answer

/-!
# The handshake

A token is obtained in two exchanges: the credentials buy a session, and the session buys a token.

- `Handshake.sessionRequest`, `Handshake.tokenRequest`: the two requests.
- `Handshake.sessionOf`, `Handshake.tokenOf`: what their answers are worth.
- `Handshake.perform`: both exchanges over a wire.
-/

namespace LoanGateway.Handshake

/-- What a session is bought with. -/
def credentials (s : IdentitySettings) : Json :=
  .object [("loginName", .string s.loginName), ("password", .string s.password)]

/-- The request for a session. -/
def sessionRequest (s : IdentitySettings) : Request :=
  Request.new .post s.sessionsUrl.text
    |>.header s.apiKeyHeader s.apiKey
    |>.withTimeout s.timeout
    |>.withJson (credentials s)

/-- The session of an answer. -/
def sessionOf (reply : Reply) : Except SignInError String :=
  match reply.accepted with
  | .error cause => .error (.sessionRefused cause)
  | .ok response =>
    match sessionId? (response.headerValues "set-cookie") with
    | some id => .ok id
    | none => .error .cookieMissing

/-- The request for a token in exchange for a session. -/
def tokenRequest (s : IdentitySettings) (session : String) : Request :=
  Request.new .get s.tokenUrl.text
    |>.header "content-type" "application/x-www-form-urlencoded"
    |>.header "cookie" (sessionHeader session)
    |>.header s.apiKeyHeader s.apiKey
    |>.withTimeout s.timeout

/-- The token of a body, if it is an answer that holds one. -/
def tokenOfBody? (body : String) : Option String :=
  match TokenAnswer.ofText body with
  | .ok answer => answer.token?
  | .error _ => none

/-- The token of an answer. -/
def tokenOf (reply : Reply) : Except SignInError String :=
  match reply.accepted with
  | .error cause => .error (.tokenRefused cause)
  | .ok response =>
    match tokenOfBody? response.body with
    | some token => .ok token
    | none => .error .tokenMissing

/-- Both exchanges. The second one takes place only if the first one gave a session. -/
def perform (s : IdentitySettings) (wire : Wire) : Except SignInError String × Wire :=
  let (reply, wire) := wire.send (sessionRequest s)
  match sessionOf reply with
  | .error e => (.error e, wire)
  | .ok session =>
    let (reply, wire) := wire.send (tokenRequest s session)
    (tokenOf reply, wire)

end LoanGateway.Handshake
