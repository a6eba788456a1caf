import LoanGateway.Text.Blank

/-!
# Session cookies

The identity provider names a session by a cookie. Cookies come in header values, several of them in
one value or one in each.

- `Cookie.ofPiece?`: the cookie between two semicolons.
- `parseCookies`: the cookies of some header values; of equal names the first one counts.
- `sessionId?`: the session that some header values name.
- `sessionHeader`: the header value that sends a session back.
-/

namespace LoanGateway

/-- The name of the session cookie. -/
def sessionCookieName : String := "JSESSIONID"

/-- A name and a value. -/
abbrev Cookie := String × String

namespace Cookie

/-- The cookie of a piece of a header value: what stands before and after the first equals sign,
without blanks around. A piece without an equals sign or without a name is none. -/
def ofPiece? (piece : List Char) : Option Cookie :=
  match piece.dropWhile (· ≠ '=') with
  | [] => none
  | _ :: value =>
    let name := Text.trim (piece.takeWhile (· ≠ '='))
    if name.isEmpty then none else some (String.ofList name, String.ofList (Text.trim value))

/-- The pieces of a header value, cut at the semicolons. -/
def pieces (value : List Char) : List (List Char) := value.splitOn ';'

/-- All cookies of some header values, in order. -/
def all (values : List String) : List Cookie :=
  values.flatMap fun value => (pieces value.toList).filterMap ofPiece?

/-- Keeps the first cookie of each name. -/
def keepFirst : List Cookie → List Cookie
  | [] => []
  | cookie :: rest => cookie :: (keepFirst rest).filter (·.1 ≠ cookie.1)

end Cookie

/-- The cookies of some header values, each name once. -/
def parseCookies (values : List String) : List Cookie := Cookie.keepFirst (Cookie.all values)

/-- The session that some header values name; an empty value names none. -/
def sessionId? (values : List String) : Option String :=
  ((parseCookies values).lookup sessionCookieName).filter (!·.isEmpty)

/-- The header value that sends a session back. -/
def sessionHeader (id : String) : String := sessionCookieName ++ "=" ++ id

end LoanGateway
