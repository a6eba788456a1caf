import LoanGateway.Json.Draft

/-!
# The grammar of JSON texts

A JSON text is a value with blanks around it. The grammar says how values are spelled and not what a
reader makes of them: it bounds neither the depth of a text nor the size of its numbers, and the
escapes of a string need not pair up to characters.

- `IsSpaces`: texts of blanks.
- `NumberLiteral.Spells`: how a number is spelled, part by part.
- `SpellsPieces`, `SpellsString`: how a string is spelled, piece by piece.
- `Part`, `Spells`: how values are spelled, with a constructor for each rule.
- `IsText`: the texts of a draft.
- `Denotes`: what stands between the quotes of a string, character by character.
-/

namespace LoanGateway

/-! ## Numbers -/

namespace NumberLiteral

/-- Digits; there is at least one. -/
def IsDigits (digits : List Char) : Prop := digits ≠ [] ∧ ∀ c ∈ digits, c.isDigit = true

/-- A point and the digits of a fraction, or nothing. -/
inductive SpellsFraction : List Char → List Char → Prop
  | nothing : SpellsFraction [] []
  | point {digits : List Char} (digits_are : IsDigits digits) :
      SpellsFraction digits ('.' :: digits)

/-- The mark of an exponent, a sign or none, and digits; or nothing. -/
inductive SpellsExponent : Option (Bool × List Char) → List Char → Prop
  | nothing : SpellsExponent none []
  | unsigned {mark : Char} {digits : List Char} (is_mark : mark = 'e' ∨ mark = 'E')
      (digits_are : IsDigits digits) : SpellsExponent (some (false, digits)) (mark :: digits)
  | plus {mark : Char} {digits : List Char} (is_mark : mark = 'e' ∨ mark = 'E')
      (digits_are : IsDigits digits) :
      SpellsExponent (some (false, digits)) (mark :: '+' :: digits)
  | minus {mark : Char} {digits : List Char} (is_mark : mark = 'e' ∨ mark = 'E')
      (digits_are : IsDigits digits) :
      SpellsExponent (some (true, digits)) (mark :: '-' :: digits)

/-- A literal without its sign. Before the point, a zero in front stands alone. -/
inductive SpellsUnsigned (negative : Bool) : NumberLiteral → List Char → Prop
  | parts {whole fraction point power : List Char} {exponent : Option (Bool × List Char)}
      (whole_are : IsDigits whole) (zero : whole.head? = some '0' → whole = ['0'])
      (fraction_is : SpellsFraction fraction point) (exponent_is : SpellsExponent exponent power) :
      SpellsUnsigned negative ⟨negative, whole, fraction, exponent⟩ (whole ++ (point ++ power))

/-- How a number is spelled. There is no sign but the minus sign. -/
inductive Spells : NumberLiteral → List Char → Prop
  | unsigned {literal : NumberLiteral} {s : List Char}
      (unsigned_is : SpellsUnsigned false literal s) : Spells literal s
  | minus {literal : NumberLiteral} {s : List Char}
      (unsigned_is : SpellsUnsigned true literal s) : Spells literal ('-' :: s)

end NumberLiteral

namespace Json

/-! ## Strings -/

/-- What stands between the quotes of a string with the given pieces. Any character but a control
character, the quote and the backslash stands for itself. -/
inductive SpellsPieces : List StringPiece → List Char → Prop
  | nothing : SpellsPieces [] []
  | plain {c : Char} {pieces : List StringPiece} {s : List Char} (printable : 0x20 ≤ c.toNat)
      (quote : c ≠ '"') (backslash : c ≠ '\\') (rest : SpellsPieces pieces s) :
      SpellsPieces (.plain c :: pieces) (c :: s)
  | escape {e c : Char} {pieces : List StringPiece} {s : List Char}
      (escapes : shortEscape? e = some c) (rest : SpellsPieces pieces s) :
      SpellsPieces (.plain c :: pieces) ('\\' :: e :: s)
  | unit {a b c d : Char} {n : Nat} {pieces : List StringPiece} {s : List Char}
      (digits : unitOfDigits? a b c d = some n) (rest : SpellsPieces pieces s) :
      SpellsPieces (.unit n :: pieces) ('\\' :: 'u' :: a :: b :: c :: d :: s)

/-- How a string is spelled. It stands for a text if its escapes pair up to characters. -/
inductive SpellsString : Option String → List Char → Prop
  | quoted {pieces : List StringPiece} {s : List Char} (inside : SpellsPieces pieces s) :
      SpellsString ((decodePieces pieces).map String.ofList) ('"' :: (s ++ ['"']))

/-- What stands between the quotes of a string that stands for a text. Each character of the text
stands for itself or is written by an escape: a short one, or the number of its UTF-16 code unit, or
the numbers of its two units. -/
inductive Denotes : List Char → List Char → Prop
  | nothing : Denotes [] []
  | plain {c : Char} {s text : List Char} (printable : 0x20 ≤ c.toNat) (quote : c ≠ '"')
      (backslash : c ≠ '\\') (rest : Denotes s text) : Denotes (c :: s) (c :: text)
  | escape {e c : Char} {s text : List Char} (escapes : shortEscape? e = some c)
      (rest : Denotes s text) : Denotes ('\\' :: e :: s) (c :: text)
  | unit {a₁ a₂ a₃ a₄ c : Char} {s text : List Char}
      (digits : unitOfDigits? a₁ a₂ a₃ a₄ = some c.toNat) (rest : Denotes s text) :
      Denotes ('\\' :: 'u' :: a₁ :: a₂ :: a₃ :: a₄ :: s) (c :: text)
  | pair {a₁ a₂ a₃ a₄ b₁ b₂ b₃ b₄ c : Char} {s text : List Char} (large : 0x10000 ≤ c.toNat)
      (lead : unitOfDigits? a₁ a₂ a₃ a₄ = some (0xD800 + (c.toNat - 0x10000) / 0x400))
      (trail : unitOfDigits? b₁ b₂ b₃ b₄ = some (0xDC00 + (c.toNat - 0x10000) % 0x400))
      (rest : Denotes s text) :
      Denotes ('\\' :: 'u' :: a₁ :: a₂ :: a₃ :: a₄ :: '\\' :: 'u' :: b₁ :: b₂ :: b₃ :: b₄ :: s)
        (c :: text)

/-! ## Values -/

/-- A text of blanks, of which there may be none. -/
def IsSpaces (s : List Char) : Prop := ∀ c ∈ s, isSpace c = true

/-- A part of a JSON text: a value, a value with blanks around it, a member of an object, and what
stands between the marks of an array or of an object. -/
inductive Part
  | value (d : Draft)
  | padded (d : Draft)
  | member (m : Option String × Draft)
  | items (ds : List Draft)
  | members (ms : List (Option String × Draft))

/-- How the parts of a text are spelled. -/
inductive Spells : Part → List Char → Prop
  | null : Spells (.value .null) ['n', 'u', 'l', 'l']
  | bool (b : Bool) :
      Spells (.value (.bool b)) (if b then ['t', 'r', 'u', 'e'] else ['f', 'a', 'l', 's', 'e'])
  | number {literal : NumberLiteral} {s : List Char} (literal_is : literal.Spells s) :
      Spells (.value (.number literal.value?)) s
  | string {text : Option String} {s : List Char} (string_is : SpellsString text s) :
      Spells (.value (.string text)) s
  | array {items : List Draft} {s : List Char} (inside : Spells (.items items) s) :
      Spells (.value (.array items true)) ('[' :: (s ++ [']']))
  | object {members : List (Option String × Draft)} {s : List Char}
      (inside : Spells (.members members) s) :
      Spells (.value (.object members true)) ('\x7b' :: (s ++ ['\x7d']))
  /-- Blanks around a value. -/
  | padded {d : Draft} {before s after : List Char} (before_are : IsSpaces before)
      (value : Spells (.value d) s) (after_are : IsSpaces after) :
      Spells (.padded d) (before ++ (s ++ after))
  /-- A name and a value with a colon between them, and blanks around all three. -/
  | member {name : Option String} {d : Draft} {before key between s : List Char}
      (before_are : IsSpaces before) (key_is : SpellsString name key)
      (between_are : IsSpaces between) (value : Spells (.padded d) s) :
      Spells (.member (name, d)) (before ++ (key ++ (between ++ ':' :: s)))
  | noItems {blanks : List Char} (are : IsSpaces blanks) : Spells (.items []) blanks
  | lastItem {d : Draft} {s : List Char} (item : Spells (.padded d) s) : Spells (.items [d]) s
  | item {d next : Draft} {ds : List Draft} {s others : List Char} (item : Spells (.padded d) s)
      (rest : Spells (.items (next :: ds)) others) :
      Spells (.items (d :: next :: ds)) (s ++ ',' :: others)
  | noMembers {blanks : List Char} (are : IsSpaces blanks) : Spells (.members []) blanks
  | lastMember {m : Option String × Draft} {s : List Char} (member : Spells (.member m) s) :
      Spells (.members [m]) s
  | moreMembers {m next : Option String × Draft} {ms : List (Option String × Draft)}
      {s others : List Char} (member : Spells (.member m) s)
      (rest : Spells (.members (next :: ms)) others) :
      Spells (.members (m :: next :: ms)) (s ++ ',' :: others)

/-- The texts of a draft. -/
def IsText (d : Draft) (text : String) : Prop := Spells (.padded d) text.toList

end Json

end LoanGateway
