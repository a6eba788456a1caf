import LoanGateway.Url.Domain
import LoanGateway.Url.Path

/-!
# Reading addresses

- `clean`: a text as its reader sees it.
- `Host.parse?`, `Authority.parse?`: hosts and authorities.
- `Url.parse?`: the address of a text, on its own or relative to another address.
- `Url.join?`: the address of a reference in an answer from another address.
-/

namespace LoanGateway.Url

/-- Tabs and line ends count nowhere in an address. -/
def withoutBreaks (s : List Char) : List Char := s.filter fun c => c ∉ ['\t', '\n', '\r']

/-- A text without controls and spaces around it and without tabs and line ends in it. -/
def clean (s : List Char) : List Char :=
  let isOuter (c : Char) : Bool := c.toNat ≤ 0x20
  withoutBreaks (((s.dropWhile isOuter).reverse.dropWhile isOuter).reverse)

/-- The scheme in front of a colon, in lowercase, and what follows the colon. -/
def scheme? (s : List Char) : Option (List Char × List Char) :=
  let isSchemeChar (c : Char) : Bool := c.isAlphanum || c ∈ ['+', '-', '.']
  match s.head?, s.dropWhile isSchemeChar with
  | some first, ':' :: rest =>
    if first.isAlpha then some ((s.takeWhile isSchemeChar).map Char.toLower, rest) else none
  | _, _ => none

/-- The characters of some bytes, if they are UTF-8. -/
def decodeUtf8? (bytes : List UInt8) : Option (List Char) :=
  (String.fromUTF8? bytes.toByteArray).map String.toList

namespace Host

/-- The address between brackets. -/
def bracketed? (s : List Char) : Option Host :=
  if s.getLast? = some ']' then (Ipv6.parse? (s.drop 1).dropLast).map .ipv6 else none

/-- The host of an address of the web. -/
def parseSpecial? (s : List Char) : Option Host :=
  match s with
  | '[' :: _ => bracketed? s
  | _ => do
    let ascii ← decodeUtf8? (percentDecode s) >>= Domain.toAscii?
    if ascii.isEmpty then none
    else if Ipv4.endsInNumber ascii then (Ipv4.parse? ascii).map .ipv4
    else return .domain ascii

/-- The characters that no host holds. -/
def isForbidden (c : Char) : Bool :=
  c ∈ ['\x00', '\t', '\n', '\r', ' ', '#', '/', ':', '<', '>', '?', '@', '[', '\\', ']', '^', '|']

/-- The host of any other address. It is kept as it is. -/
def parseOther? (s : List Char) : Option Host :=
  match s with
  | '[' :: _ => bracketed? s
  | _ =>
    if s.any isForbidden then none else some (.domain (percentEncode controlSet s))

/-- The host of a text. -/
def parse? (special : Bool) (s : List Char) : Option Host :=
  if special then parseSpecial? s else parseOther? s

end Host

namespace Authority

/-- What stands before and after the last at sign. -/
def splitAt (s : List Char) : Option (List Char × List Char) :=
  let after := (s.reverse.takeWhile (· ≠ '@')).reverse
  if after.length < s.length then some (s.take (s.length - after.length - 1), after) else none

/-- The host in front of a colon outside brackets, and what follows it. -/
def splitHost (inside : Bool) : List Char → List Char × List Char
  | [] => ([], [])
  | c :: rest =>
    if c = ':' && !inside then ([], c :: rest)
    else
      let inside := c = '[' || (inside && c ≠ ']')
      let (host, after) := splitHost inside rest
      (c :: host, after)

/-- A port and what follows its digits, which may only be a backslash. The usual port is left out,
and so is an empty one. -/
def port? (usual : Option Nat) (s : List Char) : Option (Option Nat × List Char) :=
  let digits := s.takeWhile Char.isDigit
  let after := s.dropWhile Char.isDigit
  let n := Nat.ofDigitChars 10 digits 0
  if n ≤ 65535 && (after.isEmpty || after.head? = some '\\') then
    some (if digits.isEmpty || some n = usual then none else some n, after)
  else none

/-- Reads an authority up to the first slash, question mark or hash. Also gives what follows it. -/
def parse? (scheme : List Char) (s : List Char) : Option (Authority × List Char) := do
  let special := isSpecial scheme
  let ends (c : Char) : Bool := Path.isSlash special c || c == '?' || c == '#'
  let region := s.takeWhile (!ends ·)
  let rest := s.dropWhile (!ends ·)
  let (userinfo, hostAndPort) := (splitAt region).getD ([], region)
  let username := percentEncode userinfoSet (userinfo.takeWhile (· ≠ ':'))
  let password := percentEncode userinfoSet ((userinfo.dropWhile (· ≠ ':')).drop 1)
  if userinfo.isEmpty && hostAndPort.isEmpty && !region.isEmpty && !rest.isEmpty then none
  let (hostText, after) := splitHost false hostAndPort
  let host ←
    if hostText.isEmpty then
      if special || !after.isEmpty || !username.isEmpty || !password.isEmpty then none
      else some none
    else (Host.parse? special hostText).map some
  match after with
  | ':' :: digits =>
    let (port, tail) ← port? (usualPort? scheme) digits
    return (⟨username, password, host, port⟩, tail ++ rest)
  | _ => return (⟨username, password, host, none⟩, after ++ rest)

end Authority

/-- What stands before a question mark or a hash, the query and the fragment. -/
def splitEnd (special : Bool) (s : List Char) :
    List Char × Option (List Char) × Option (List Char) :=
  let main := s.takeWhile (· ≠ '#')
  let path := main.takeWhile (· ≠ '?')
  let query := match main.dropWhile (· ≠ '?') with
    | [] => none
    | _ :: q => some (percentEncode (querySet special) q)
  let fragment := match s.dropWhile (· ≠ '#') with
    | [] => none
    | _ :: f => some (percentEncode fragmentSet f)
  (path, query, fragment)

/-- The address behind two slashes. -/
def withAuthority? (scheme s : List Char) : Option Url := do
  let special := isSpecial scheme
  let (authority, rest) ← Authority.parse? scheme s
  let (path, query, fragment) := splitEnd special rest
  return ⟨scheme, some authority, .rooted (Path.ofText special path), query, fragment⟩

/-- The host of a file and the text of its path. A drive is no host. -/
def fileHost? (s : List Char) : Option (Option Host × List Char) := do
  let ends (c : Char) : Bool := Path.isSlash true c || c == '?' || c == '#'
  let name := s.takeWhile (!ends ·)
  let rest := s.dropWhile (!ends ·)
  if name.isEmpty then return (none, s)
  if Path.isDrive name then return (none, s)
  let host ← Host.parseSpecial? name
  return (if host = .domain "localhost".toList then none else some host, rest)

/-- The address of a file. -/
def file? (scheme s : List Char) : Option Url := do
  let (host, rest) ← match s with
    | a :: b :: rest =>
      if Path.isSlash true a && Path.isSlash true b then fileHost? rest else some (none, s)
    | _ => some (none, s)
  let (path, query, fragment) := splitEnd true rest
  let authority : Authority := ⟨[], [], host, none⟩
  return ⟨scheme, some authority, .rooted (Path.ofFileText path), query, fragment⟩

/-- The address of a scheme that is neither of the web nor of files. -/
def other? (scheme s : List Char) : Option Url :=
  match s with
  | '/' :: '/' :: rest => withAuthority? scheme rest
  | _ =>
    let (path, query, fragment) := splitEnd false s
    match path with
    | '/' :: rest => some ⟨scheme, none, .rooted (Path.extend false [] rest), query, fragment⟩
    | _ => some ⟨scheme, none, .rootless (percentEncode controlSet path), query, fragment⟩

/-- The address of a reference without a scheme, relative to an address of the web. -/
def relative? (base : Url) (s : List Char) : Option Url :=
  let special := isSpecial base.scheme
  let segments := base.segments?.getD []
  let (path, query, fragment) := splitEnd special s
  match path with
  | [] => some { base with query := query.or base.query, fragment := fragment }
  | c :: rest =>
    if Path.isSlash special c then
      match s, rest with
      | '/' :: '/' :: after, _ => withAuthority? base.scheme after
      | _, d :: _ =>
        if Path.isSlash special d then
          withAuthority? base.scheme (s.dropWhile (Path.isSlash special))
        else
          some { base with path := .rooted (Path.extend special [] rest), query, fragment }
      | _, [] => some { base with path := .rooted (Path.extend special [] rest), query, fragment }
    else
      let segments := Path.extend special segments.dropLast path
      some { base with path := .rooted segments, query, fragment }

/-- The address of a text, relative to `base` if it has no scheme of its own. A reference with the
scheme of an address of the web but without two slashes is relative to it too. -/
def parse? (base : Option Url) (text : String) : Option Url :=
  let s := clean text.toList
  match scheme? s with
  | some (scheme, rest) =>
    if isFile scheme then file? scheme rest
    else if isSpecial scheme then
      let slashes := (rest.takeWhile (Path.isSlash true)).length
      match base with
      | some b =>
        if slashes < 2 && b.scheme = scheme then relative? b rest
        else withAuthority? scheme (rest.dropWhile (Path.isSlash true))
      | none => withAuthority? scheme (rest.dropWhile (Path.isSlash true))
    else other? scheme rest
  | none => base.bind fun b => relative? b s

/-- The address of a reference, relative to an address of the web. -/
def join? (base : Url) (reference : String) : Option Url := parse? (some base) reference

end LoanGateway.Url
