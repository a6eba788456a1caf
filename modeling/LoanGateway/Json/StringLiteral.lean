/-!
# String literals

How a text is written in a JSON text, and which text that is.

- `StringPiece`: what one character or escape of a literal stands for.
- `scanString`: the pieces of the literal whose opening quote has been read.
- `decodePieces`: the text of a literal, if its escapes pair up to characters.
- `encodeString`: the literal that the library writes for a text.
-/

namespace LoanGateway.Json

/-- A character, or a UTF-16 code unit given by its number. -/
inductive StringPiece
  | plain (c : Char)
  | unit (n : Nat)

/-- The value of a hexadecimal digit. -/
def hexValue? (c : Char) : Option Nat :=
  let n := c.toNat
  if 0x30 ≤ n && n ≤ 0x39 then some (n - 0x30)
  else if 0x41 ≤ n && n ≤ 0x46 then some (n - 0x41 + 10)
  else if 0x61 ≤ n && n ≤ 0x66 then some (n - 0x61 + 10)
  else none

/-- The code unit of four hexadecimal digits. -/
def unitOfDigits? (a b c d : Char) : Option Nat := do
  return (((← hexValue? a) * 16 + (← hexValue? b)) * 16 + (← hexValue? c)) * 16 + (← hexValue? d)

/-- The character of an escape of two characters. -/
def shortEscape? : Char → Option Char
  | '"' => some '"'
  | '\\' => some '\\'
  | '/' => some '/'
  | 'b' => some '\x08'
  | 'f' => some '\x0c'
  | 'n' => some '\n'
  | 'r' => some '\r'
  | 't' => some '\t'
  | _ => none

/-- The pieces up to the closing quote and what follows it. A control character, an unknown escape
or a missing quote makes the literal unreadable. -/
def scanString : List Char → Option (List StringPiece × List Char)
  | [] => none
  | '"' :: rest => some ([], rest)
  | '\\' :: 'u' :: a :: b :: c :: d :: rest => do
    let n ← unitOfDigits? a b c d
    let (pieces, rest) ← scanString rest
    return (.unit n :: pieces, rest)
  | '\\' :: e :: rest => do
    let c ← shortEscape? e
    let (pieces, rest) ← scanString rest
    return (.plain c :: pieces, rest)
  | c :: rest => do
    if c.toNat < 0x20 || c = '\\' then none
    let (pieces, rest) ← scanString rest
    return (.plain c :: pieces, rest)

/-- The character of a leading and a trailing surrogate. -/
def pairedChar (lead trail : Nat) : Char :=
  Char.ofNat (0x10000 + (lead - 0xD800) * 0x400 + (trail - 0xDC00))

/-- The text of a literal. A leading surrogate has to be followed by a trailing one, and no
trailing one stands alone. -/
def decodePieces : List StringPiece → Option (List Char)
  | [] => some []
  | .plain c :: rest => (decodePieces rest).map (c :: ·)
  | .unit lead :: .unit trail :: rest =>
    if 0xD800 ≤ lead && lead < 0xDC00 then
      if 0xDC00 ≤ trail && trail < 0xE000 then
        (decodePieces rest).map (pairedChar lead trail :: ·)
      else none
    else if 0xDC00 ≤ lead && lead < 0xE000 then none
    else (decodePieces (.unit trail :: rest)).map (Char.ofNat lead :: ·)
  | .unit n :: rest =>
    if 0xD800 ≤ n && n < 0xE000 then none
    else (decodePieces rest).map (Char.ofNat n :: ·)

/-- The written form of one character: controls, the quote and the backslash are escaped. -/
def encodeChar (c : Char) : List Char :=
  match c with
  | '"' => ['\\', '"']
  | '\\' => ['\\', '\\']
  | '\x08' => ['\\', 'b']
  | '\x0c' => ['\\', 'f']
  | '\n' => ['\\', 'n']
  | '\r' => ['\\', 'r']
  | '\t' => ['\\', 't']
  | _ =>
    if c.toNat < 0x20 then
      ['\\', 'u', '0', '0', Nat.digitChar (c.toNat / 16), Nat.digitChar (c.toNat % 16)]
    else [c]

/-- The literal of a text. -/
def encodeString (s : List Char) : List Char := '"' :: s.flatMap encodeChar ++ ['"']

end LoanGateway.Json
