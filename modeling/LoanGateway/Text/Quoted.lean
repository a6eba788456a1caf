import LoanGateway.Text.Printable

/-!
# Quoted texts

How diagnostics show a text: between double quotes, with everything that would be misread or not
be seen written as an escape.

- `escape`: the written form of one character.
- `quote`: the written form of a text.
-/

namespace LoanGateway.Text

/-- A character by its code, in lowercase hexadecimal digits between braces. -/
def escapeCode (c : Char) : List Char :=
  ['\\', 'u', '\x7b'] ++ Nat.toDigits 16 c.toNat ++ ['\x7d']

/-- The written form of one character. The quote, the backslash and the usual controls have short
escapes; a character that extends its neighbour or cannot be seen is given by its code. -/
def escape (c : Char) : List Char :=
  match c with
  | '\x00' => ['\\', '0']
  | '\t' => ['\\', 't']
  | '\r' => ['\\', 'r']
  | '\n' => ['\\', 'n']
  | '"' => ['\\', '"']
  | '\\' => ['\\', '\\']
  | _ => if isCombining c || !isPrintable c then escapeCode c else [c]

/-- The text between double quotes, each character in its written form. -/
def quote (s : List Char) : List Char := '"' :: s.flatMap escape ++ ['"']

/-- `quote` on strings. -/
def quoteString (s : String) : String := String.ofList (quote s.toList)

end LoanGateway.Text
