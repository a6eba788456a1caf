import LoanGateway.Json.Printer
import LoanGateway.Json.Draft
import LoanGateway.Text.Blank
import LoanGateway.Url.Parser

/-!
# Identifiers of new resources

The backend tells where a new resource is; the last part of its address is the identifier. Some
answers hold the identifier in the body instead.

- `Url.lastSegment?`: the last segment of a path that is not empty.
- `Backend.locationIdentifier?`: the identifier in an address, relative to the base address.
- `Backend.bodyIdentifier?`: the identifier in a body.
-/

namespace LoanGateway

/-- The last segment of the path that is not empty. -/
def Url.lastSegment? (u : Url) : Option String :=
  (u.segments?.bind fun segments => (segments.filter (!·.isEmpty)).getLast?).map String.ofList

namespace Backend

/-- The identifier in the address of a new resource. A blank address has none. -/
def locationIdentifier? (base : Url) (location : String) : Option String :=
  let location := Text.trimString location
  if location.isEmpty then none else (base.join? location).bind Url.lastSegment?

/-- The identifier that a value stands for: a text that is not blank, or a number. -/
def identifierOf? : Json → Option String
  | .string s => if Text.isBlankText s then none else some s
  | .number n => some (String.ofList n.text)
  | _ => none

/-- The identifier in a field of the body. -/
def bodyIdentifier? (field body : String) : Option String :=
  match (Json.parse? body).map Json.canonical with
  | some (.object members) => (members.lookup field).bind identifierOf?
  | _ => none

end Backend

end LoanGateway
