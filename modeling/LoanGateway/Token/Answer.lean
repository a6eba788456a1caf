import LoanGateway.Json.Reader
import LoanGateway.Text.Blank

/-!
# Token answers

What the identity provider sends in exchange for a session.

- `TokenAnswer`: the answer, in which the token may be absent.
- `TokenAnswer.ofText`: the answer of a body.
- `TokenAnswer.token?`: the token, if the answer really holds one. Some identity providers write an
  absent token as a word.
-/

namespace LoanGateway

/-- The answer to a request for a token. -/
structure TokenAnswer where
  idToken : Option String
  deriving DecidableEq

namespace TokenAnswer

open Json

/-- The name of the only field. -/
def field : String := "id_token"

/-- The token of a list of members, which holds the field at most once. -/
def ofMembers (members : List (String × Draft)) (closed : Bool) : Decoded TokenAnswer := do
  let read := Draft.readOptional Draft.readText
  checkMembers (fun name => if name = field then some (accepts read) else none) Draft.skip []
    members
  if !closed then throw .malformed
  match members.lookup field with
  | some d => return ⟨← read d⟩
  | none => return ⟨none⟩

/-- The answer of a value: an object with the field, or an array with the token. -/
def ofDraft : Draft → Decoded TokenAnswer
  | .object members closed => ofMembers (Draft.namedMembers members) closed
  | .array [] true => .ok ⟨none⟩
  | .array items closed => do
    let (token, rest) ← Draft.readItem closed (Draft.readOptional Draft.readText) items
    Draft.readEnd closed rest
    return ⟨token⟩
  | d => .error d.mismatch

/-- The answer of a value that was read completely. -/
def ofJson (v : Json) : Decoded TokenAnswer := ofDraft (Draft.ofJson v)

/-- The answer of a body. -/
def ofText (body : String) : Decoded TokenAnswer := readDocument ofDraft body

/-- Whether a text can be a token: it is neither empty nor a word for an absent one. -/
def isToken (s : String) : Bool := s ≠ "" && s ≠ "null" && s ≠ "undefined"

/-- The token without the blanks around it, if there is one. -/
def token? (a : TokenAnswer) : Option String := (a.idToken.map Text.trimString).filter isToken

end TokenAnswer

end LoanGateway
