import LoanGateway.Json.NumberLiteral
import LoanGateway.Json.StringLiteral

/-!
# JSON tokens

- `Token`: a mark, a word or a literal of a JSON text.
- `tokens`: the tokens of a text. Where no token can be read the list ends with `unreadable`.
-/

namespace LoanGateway.Json

/-- A token. A literal holds its value, or `none` if it is well formed but stands for no value: a
number out of range, or a text with a lone surrogate. -/
inductive Token
  | openObject
  | closeObject
  | openArray
  | closeArray
  | comma
  | colon
  | null
  | bool (b : Bool)
  | number (value : Option Number)
  | string (value : Option String)
  | unreadable

/-- The four characters that may stand between tokens. -/
def isSpace (c : Char) : Bool := c == ' ' || c == '\t' || c == '\n' || c == '\r'

/-- The mark of a character. -/
def mark? : Char → Option Token
  | '\x7b' => some .openObject
  | '\x7d' => some .closeObject
  | '[' => some .openArray
  | ']' => some .closeArray
  | ',' => some .comma
  | ':' => some .colon
  | _ => none

/-- The word at the start of a text and what follows it. -/
def scanWord? : List Char → Option (Token × List Char)
  | 'n' :: 'u' :: 'l' :: 'l' :: rest => some (.null, rest)
  | 't' :: 'r' :: 'u' :: 'e' :: rest => some (.bool true, rest)
  | 'f' :: 'a' :: 'l' :: 's' :: 'e' :: rest => some (.bool false, rest)
  | _ => none

/-- The literal at the start of a text and what follows it. -/
def scanLiteral? : List Char → Option (Token × List Char)
  | '"' :: rest =>
    (scanString rest).map fun (pieces, rest) =>
      (.string ((decodePieces pieces).map String.ofList), rest)
  | s => (NumberLiteral.scan s).map fun (literal, rest) => (.number literal.value?, rest)

/-- The token at the start of a text and what follows it. -/
def scanToken? (s : List Char) : Option (Token × List Char) :=
  match s with
  | [] => none
  | c :: rest =>
    match mark? c with
    | some token => some (token, rest)
    | none => (scanWord? s).or (scanLiteral? s)

/-- The tokens of a text, which has at most `fuel` characters. -/
def tokensWithin : Nat → List Char → List Token
  | 0, _ => []
  | fuel + 1, s =>
    match s.dropWhile isSpace with
    | [] => []
    | s =>
      match scanToken? s with
      | some (token, rest) => token :: tokensWithin fuel rest
      | none => [.unreadable]

/-- The tokens of a text. Every token takes at least one character. -/
def tokens (s : List Char) : List Token := tokensWithin s.length s

end LoanGateway.Json
