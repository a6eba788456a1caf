import LoanGateway.Url.Ipv4
import LoanGateway.Url.Ipv6

/-!
# Addresses

- `Host`, `Authority`, `Path`: the parts of an address.
- `Url`: an address. All parts are in their encoded form.
- `Url.text`: the written form.
- `Url.segments?`: the segments of a path that has any.
-/

namespace LoanGateway

namespace Url

/-- Who answers: a name, or an address. -/
inductive Host
  | domain (name : List Char)
  | ipv4 (address : Nat)
  | ipv6 (pieces : List Nat)
  deriving DecidableEq

/-- The written form of a host. -/
def Host.chars : Host → List Char
  | domain name => name
  | ipv4 address => Ipv4.text address
  | ipv6 pieces => '[' :: Ipv6.text pieces ++ [']']

/-- The part of an address that says whom to ask: credentials, of which an empty one counts as
absent, the host, and the port if it is not the usual one. -/
structure Authority where
  username : List Char
  password : List Char
  host : Option Host
  port : Option Nat
  deriving DecidableEq

/-- The credentials in front of a host. -/
def Authority.credentials (a : Authority) : List Char :=
  if a.username.isEmpty && a.password.isEmpty then []
  else a.username ++ (if a.password.isEmpty then [] else ':' :: a.password) ++ ['@']

/-- The written form of an authority. -/
def Authority.chars (a : Authority) : List Char :=
  a.credentials ++ (a.host.map Host.chars).getD [] ++
    (a.port.map fun n => ':' :: Nat.toDigits 10 n).getD []

/-- Where to look: segments, each behind a slash, or a text without slashes to go by. -/
inductive Path
  | rooted (segments : List (List Char))
  | rootless (text : List Char)
  deriving DecidableEq

/-- The written form of a path. -/
def Path.chars : Path → List Char
  | rooted segments => segments.flatMap fun s => '/' :: s
  | rootless text => text

end Url

/-- An address. -/
structure Url where
  scheme : List Char
  authority : Option Url.Authority
  path : Url.Path
  query : Option (List Char)
  fragment : Option (List Char)
  deriving DecidableEq

namespace Url

/-- The schemes of the web, with their usual ports. -/
def usualPort? (scheme : List Char) : Option Nat :=
  if scheme = "http".toList || scheme = "ws".toList then some 80
  else if scheme = "https".toList || scheme = "wss".toList then some 443
  else if scheme = "ftp".toList then some 21
  else none

/-- Files are addressed like the web, but have no ports. -/
def isFile (scheme : List Char) : Bool := scheme = "file".toList

/-- Whether backslashes count as slashes and a host is required. -/
def isSpecial (scheme : List Char) : Bool := (usualPort? scheme).isSome || isFile scheme

/-- The written form of an address. -/
def chars (u : Url) : List Char :=
  u.scheme ++ ':' :: (u.authority.map fun a => '/' :: '/' :: a.chars).getD [] ++ u.path.chars ++
    (u.query.map ('?' :: ·)).getD [] ++ (u.fragment.map ('#' :: ·)).getD []

/-- `chars` as a string. -/
def text (u : Url) : String := String.ofList u.chars

/-- The segments of a path that has any. -/
def segments? (u : Url) : Option (List (List Char)) :=
  match u.path with
  | .rooted [] | .rootless _ => none
  | .rooted segments => some segments

end Url

end LoanGateway
