import LoanGateway.Url.Parser

/-!
# Endpoints

Addresses below a base address.

- `Url.withPath`: another path at the same host.
- `Url.below`: a path below the path of an address. Query and fragment stay.
- `Url.addPair`: a further pair of name and value in the query.
-/

namespace LoanGateway.Url

/-- The address with another path. The path is read like one of an address, except that question
marks and hashes are part of it. -/
def withPath (u : Url) (path : List Char) : Url :=
  { u with path := .rooted (Path.ofText (isSpecial u.scheme) (withoutBreaks path)) }

/-- The address of a path below the path of `u`: exactly one slash stands between the two. -/
def below (u : Url) (path : List Char) : Url :=
  let isSlash (c : Char) : Bool := c == '/'
  u.withPath ((u.path.chars.reverse.dropWhile isSlash).reverse ++ '/' :: path.dropWhile isSlash)

/-- Adds a pair of name and value to the query. -/
def addPair (u : Url) (name value : List Char) : Url :=
  let pair := formEncode name ++ '=' :: formEncode value
  let query := match u.query with
    | none | some [] => pair
    | some q => q ++ '&' :: pair
  { u with query := some query }

end LoanGateway.Url
