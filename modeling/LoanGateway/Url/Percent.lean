/-!
# Percent encoding

Characters that a part of an address cannot hold are written by the bytes of their UTF-8 form.

- `EncodeSet`: the characters that a part cannot hold; characters outside ASCII are in every set.
- `percentEncode`: a text with the characters of a set encoded.
- `percentDecode`: the bytes of a text, with its encoded bytes decoded.
- `formEncode`: the form of names and values in a query.
-/

namespace LoanGateway.Url

/-- The characters that a part of an address cannot hold. -/
abbrev EncodeSet := Char → Bool

/-- Controls and everything outside ASCII. -/
def controlSet : EncodeSet := fun c => c.toNat < 0x20 || 0x7E < c.toNat

def fragmentSet : EncodeSet := fun c => controlSet c || c ∈ [' ', '"', '<', '>', '`']

def pathSet : EncodeSet := fun c => fragmentSet c || c ∈ ['#', '?', '\x7b', '\x7d']

def userinfoSet : EncodeSet := fun c =>
  pathSet c || c ∈ ['/', ':', ';', '=', '@', '[', '\\', ']', '^', '|']

/-- The set of a query; in the addresses of the web the apostrophe is in it too. -/
def querySet (special : Bool) : EncodeSet := fun c =>
  controlSet c || c ∈ [' ', '"', '#', '<', '>'] || (special && c == '\x27')

/-- An uppercase hexadecimal digit. -/
def upperDigit (n : Nat) : Char := (Nat.digitChar n).toUpper

/-- The encoded form of a byte. -/
def percentByte (b : UInt8) : List Char :=
  ['%', upperDigit (b.toNat / 16), upperDigit (b.toNat % 16)]

/-- The text with the characters of the set encoded. -/
def percentEncode (set : EncodeSet) (s : List Char) : List Char :=
  s.flatMap fun c => if set c then (String.utf8EncodeChar c).flatMap percentByte else [c]

/-- The value of a hexadecimal digit. -/
def digitValue? (c : Char) : Option Nat :=
  let n := c.toNat
  if 0x30 ≤ n && n ≤ 0x39 then some (n - 0x30)
  else if 0x41 ≤ n && n ≤ 0x46 then some (n - 0x41 + 10)
  else if 0x61 ≤ n && n ≤ 0x66 then some (n - 0x61 + 10)
  else none

/-- The byte that a percent sign and two characters encode, if these are digits. -/
def encodedByte? (high low : Char) : Option UInt8 := do
  return UInt8.ofNat ((← digitValue? high) * 16 + (← digitValue? low))

/-- The bytes of a text. A percent sign without two digits stands for itself. -/
def percentDecode : List Char → List UInt8
  | [] => []
  | '%' :: high :: low :: rest =>
    match encodedByte? high low with
    | some b => b :: percentDecode rest
    | none => '%'.toNat.toUInt8 :: percentDecode (high :: low :: rest)
  | c :: rest => String.utf8EncodeChar c ++ percentDecode rest

/-- The form of a byte in a query: letters, digits and four marks stand for themselves, and a plus
sign for the space. -/
def formByte (b : UInt8) : List Char :=
  let c := Char.ofNat b.toNat
  if c.isAlphanum || c ∈ ['*', '-', '.', '_'] then [c]
  else if c = ' ' then ['+']
  else percentByte b

/-- The form of a name or a value in a query. -/
def formEncode (s : List Char) : List Char := (s.flatMap String.utf8EncodeChar).flatMap formByte

end LoanGateway.Url
