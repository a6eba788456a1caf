import LoanGateway.Proofs.Json.Grammar
import LoanGateway.Proofs.Json.Tokens
import Mathlib.Data.List.DropRight

/-!
# Tokens and how they are spelled

The scanners take from the front of a text exactly what the grammar allows there. A number is the only
token that could go on with what follows it.

- `NumberLiteral.exists_spells_of_scan`, `NumberLiteral.scan_of_spells`: numbers.
- `scanString_eq_some_iff`: strings.
- `Token.Spells`: how a token is spelled.
- `tokens_of_spellsString`, `tokens_of_spellsNumber`: what is spelled at the front comes first.
- `exists_spells_of_tokens`: the first token is spelled at the front, behind blanks.
-/

namespace LoanGateway

/-! ## Numbers -/

namespace NumberLiteral

variable {s r t power : List Char} {digits : List Char} {literal : NumberLiteral}

theorem exists_spells_of_scanFraction (h : scanFraction s = some (digits, r)) :
    ∃ point, s = point ++ r ∧ SpellsFraction digits point := by
  unfold scanFraction at h
  split at h
  · obtain ⟨rfl, any, all, _⟩ := scanDigits_eq_some_iff.mp h
    exact ⟨'.' :: digits, rfl, .point ⟨any, all⟩⟩
  · cases h
    exact ⟨[], rfl, .nothing⟩

/-- What is scanned behind the mark of an exponent is spelled there. -/
theorem exists_spells_of_scanPower {mark : Char} (is_mark : mark = 'e' ∨ mark = 'E')
    {power : Bool × List Char} (h : scanPower s = some (power, r)) :
    ∃ t, s = t ++ r ∧ SpellsExponent (some power) (mark :: t) := by
  unfold scanPower at h
  split at h
  all_goals
    obtain ⟨⟨digits, _⟩, scanned, same⟩ := Option.map_eq_some_iff.mp h
    cases same
    obtain ⟨rfl, any, all, _⟩ := scanDigits_eq_some_iff.mp scanned
  · exact ⟨'-' :: digits, rfl, .minus is_mark ⟨any, all⟩⟩
  · exact ⟨'+' :: digits, rfl, .plus is_mark ⟨any, all⟩⟩
  · exact ⟨digits, rfl, .unsigned is_mark ⟨any, all⟩⟩

theorem exists_spells_of_scanExponent {exponent : Option (Bool × List Char)}
    (h : scanExponent s = some (exponent, r)) :
    ∃ power, s = power ++ r ∧ SpellsExponent exponent power := by
  unfold scanExponent at h
  split at h
  · obtain ⟨⟨_, _⟩, scanned, same⟩ := Option.map_eq_some_iff.mp h
    cases same
    obtain ⟨t, rfl, spelled⟩ := exists_spells_of_scanPower (.inl rfl) scanned
    exact ⟨'e' :: t, rfl, spelled⟩
  · obtain ⟨⟨_, _⟩, scanned, same⟩ := Option.map_eq_some_iff.mp h
    cases same
    obtain ⟨t, rfl, spelled⟩ := exists_spells_of_scanPower (.inr rfl) scanned
    exact ⟨'E' :: t, rfl, spelled⟩
  · cases h
    exact ⟨[], rfl, .nothing⟩

theorem exists_spells_of_scanUnsigned {negative : Bool}
    (h : scanUnsigned negative s = some (literal, r)) :
    ∃ t, s = t ++ r ∧ SpellsUnsigned negative literal t := by
  obtain ⟨whole, _, fraction, _, exponent, scanned, zero, afterWhole, afterPoint, rfl⟩ :=
    scanUnsigned_eq_some_iff.mp h
  obtain ⟨rfl, any, all, _⟩ := scanDigits_eq_some_iff.mp scanned
  obtain ⟨point, rfl, fraction_is⟩ := exists_spells_of_scanFraction afterWhole
  obtain ⟨power, rfl, exponent_is⟩ := exists_spells_of_scanExponent afterPoint
  have alone : whole.head? = some '0' → whole = ['0'] := by
    intro first
    cases whole with
    | nil => cases first
    | cons c rest =>
      cases rest with
      | nil => simpa using first
      | cons d rest => exact absurd ⟨first, by simp⟩ zero
  refine ⟨whole ++ (point ++ power), ?_, .parts ⟨any, all⟩ alone fraction_is exponent_is⟩
  rw [List.append_assoc, List.append_assoc]

/-- What is scanned as a number is spelled as one. -/
theorem exists_spells_of_scan (h : scan s = some (literal, r)) :
    ∃ t, s = t ++ r ∧ literal.Spells t := by
  unfold scan at h
  split at h
  · obtain ⟨t, rfl, unsigned_is⟩ := exists_spells_of_scanUnsigned h
    exact ⟨'-' :: t, rfl, .minus unsigned_is⟩
  · obtain ⟨t, rfl, unsigned_is⟩ := exists_spells_of_scanUnsigned h
    exact ⟨t, rfl, .unsigned unsigned_is⟩

/-- An exponent begins with no digit and no point. -/
theorem SpellsExponent.begins {exponent : Option (Bool × List Char)}
    (h : SpellsExponent exponent power) :
    Text.startsWithDigit power = false ∧ power.head? ≠ some '.' := by
  have marked {mark : Char} (is_mark : mark = 'e' ∨ mark = 'E') (rest : List Char) :
      Text.startsWithDigit (mark :: rest) = false ∧ (mark :: rest).head? ≠ some '.' := by
    rcases is_mark with rfl | rfl
    · exact ⟨rfl, by simp⟩
    · exact ⟨rfl, by simp⟩
  cases h with
  | nothing => exact ⟨rfl, nofun⟩
  | unsigned is_mark | plus is_mark | minus is_mark => exact marked is_mark _

theorem scanDigits_of_isDigits (are : IsDigits digits) (ends : Text.startsWithDigit r = false) :
    scanDigits (digits ++ r) = some (digits, r) :=
  scanDigits_eq_some_iff.mpr ⟨rfl, are.1, are.2, ends⟩

theorem scanDigits_self (are : IsDigits digits) : scanDigits digits = some (digits, []) := by
  have whole : scanDigits (digits ++ []) = some (digits, []) := scanDigits_of_isDigits are rfl
  rwa [List.append_nil] at whole

/-- Digits without a sign are scanned behind a mark as they stand. -/
theorem scanPower_of_isDigits (are : IsDigits digits) :
    scanPower digits = some ((false, digits), []) := by
  obtain ⟨c, rest, rfl⟩ := List.exists_cons_of_ne_nil are.1
  have digit : c.isDigit = true := are.2 c List.mem_cons_self
  have plus : c ≠ '+' := by
    rintro rfl
    cases digit
  have minus : c ≠ '-' := by
    rintro rfl
    cases digit
  rw [scanPower_of_ne minus plus, scanDigits_self are]
  rfl

theorem scanExponent_of_spells {exponent : Option (Bool × List Char)}
    (h : SpellsExponent exponent power) : scanExponent power = some (exponent, []) := by
  cases h with
  | nothing => rfl
  | plus is_mark are | minus is_mark are =>
    rw [scanExponent_mark is_mark, scanPower, scanDigits_self are]
    rfl
  | unsigned is_mark are =>
    rw [scanExponent_mark is_mark, scanPower_of_isDigits are]
    rfl

theorem scanFraction_of_spells (h : SpellsFraction digits t)
    (ends : Text.startsWithDigit r = false ∧ r.head? ≠ some '.') :
    scanFraction (t ++ r) = some (digits, r) := by
  cases h with
  | nothing =>
    show scanFraction r = _
    unfold scanFraction
    split
    · exact absurd rfl ends.2
    · rfl
  | point are => exact scanDigits_of_isDigits are ends.1

theorem scanUnsigned_of_spells {negative : Bool} (h : SpellsUnsigned negative literal t) :
    scanUnsigned negative t = some (literal, []) := by
  cases h with
  | parts whole_are zero fraction_is exponent_is =>
    rename_i whole fraction point power exponent
    refine scanUnsigned_eq_some_iff.mpr ⟨whole, point ++ power, fraction, power, exponent, ?_, ?_,
      scanFraction_of_spells fraction_is exponent_is.begins, scanExponent_of_spells exponent_is,
      rfl⟩
    · refine scanDigits_of_isDigits whole_are ?_
      cases fraction_is with
      | nothing => exact exponent_is.begins.1
      | point => rfl
    · rintro ⟨first, long⟩
      rw [zero first] at long
      exact absurd long (by decide)

/-- A number is scanned as it is spelled, unless what follows goes on with it. -/
theorem scan_of_spells (h : literal.Spells t) (ends : Ends r) :
    scan (t ++ r) = some (literal, r) := by
  refine scan_append ends (r := []) ?_
  cases h with
  | minus unsigned_is => exact scanUnsigned_of_spells unsigned_is
  | unsigned unsigned_is =>
    have scanned := scanUnsigned_of_spells unsigned_is
    obtain ⟨c, rest, rfl, digit⟩ := head_of_scanUnsigned scanned
    rw [scan_of_ne (by rintro rfl; cases digit)]
    exact scanned

end NumberLiteral

namespace Json

open NumberLiteral

/-! ## Strings -/

/-- What is scanned up to a quote is what is spelled there. -/
theorem scanString_eq_some_iff {s r : List Char} {pieces : List StringPiece} :
    scanString s = some (pieces, r) ↔ ∃ t, SpellsPieces pieces t ∧ s = t ++ '"' :: r := by
  constructor
  · intro h
    fun_induction scanString s generalizing pieces r with
    | case1 => cases h
    | case2 =>
      cases h
      exact ⟨[], .nothing, rfl⟩
    | case3 a b c d rest ih =>
      obtain ⟨n, digits, h⟩ := Option.bind_eq_some_iff.mp h
      obtain ⟨⟨_, _⟩, inner, h⟩ := Option.bind_eq_some_iff.mp h
      cases h
      obtain ⟨t, spelled, rfl⟩ := ih inner
      exact ⟨_, .unit digits spelled, rfl⟩
    | case4 e rest _ ih =>
      obtain ⟨c, escapes, h⟩ := Option.bind_eq_some_iff.mp h
      obtain ⟨⟨_, _⟩, inner, h⟩ := Option.bind_eq_some_iff.mp h
      cases h
      obtain ⟨t, spelled, rfl⟩ := ih inner
      exact ⟨_, .escape escapes spelled, rfl⟩
    | case5 => cases h
    | case6 c rest quote _ _ _ plain =>
      rename_i ih
      obtain ⟨⟨_, _⟩, inner, h⟩ := Option.bind_eq_some_iff.mp h
      cases h
      obtain ⟨t, spelled, rfl⟩ := ih inner
      simp only [Bool.or_eq_true, decide_eq_true_eq, not_or, Nat.not_lt] at plain
      exact ⟨_, .plain plain.1 (fun same => quote same) plain.2 spelled, rfl⟩
  · rintro ⟨t, spelled, rfl⟩
    induction spelled with
    | nothing => rfl
    | plain printable quote backslash _ ih =>
      have control : ¬ _ < 0x20 := Nat.not_lt.mpr printable
      simp [scanString, backslash, control, ih]
    | @escape e c pieces s escapes _ ih =>
      have other : e ≠ 'u' := by
        rintro rfl
        cases escapes
      simp [scanString, other, escapes, ih]
    | unit digits _ ih => simp [scanString, digits, ih]

theorem scanString_of_spells {t r : List Char} {pieces : List StringPiece}
    (spelled : SpellsPieces pieces t) :
    scanString (t ++ '"' :: r) = some (pieces, r) :=
  scanString_eq_some_iff.mpr ⟨t, spelled, rfl⟩

/-! ## Tokens -/

/-- How a token is spelled. -/
inductive Token.Spells : Token → List Char → Prop
  | openObject : Spells .openObject ['\x7b']
  | closeObject : Spells .closeObject ['\x7d']
  | openArray : Spells .openArray ['[']
  | closeArray : Spells .closeArray [']']
  | comma : Spells .comma [',']
  | colon : Spells .colon [':']
  | null : Spells .null ['n', 'u', 'l', 'l']
  | bool (b : Bool) :
      Spells (.bool b) (if b then ['t', 'r', 'u', 'e'] else ['f', 'a', 'l', 's', 'e'])
  | number {literal : NumberLiteral} {s : List Char} (literal_is : literal.Spells s) :
      Spells (.number literal.value?) s
  | string {text : Option String} {s : List Char} (string_is : SpellsString text s) :
      Spells (.string text) s

variable {s r t rest : List Char} {token : Token}

theorem spells_of_mark? {c : Char} (h : mark? c = some token) : token.Spells [c] := by
  unfold mark? at h
  split at h
  · cases h
    exact .openObject
  · cases h
    exact .closeObject
  · cases h
    exact .openArray
  · cases h
    exact .closeArray
  · cases h
    exact .comma
  · cases h
    exact .colon
  · cases h

theorem exists_spells_of_scanWord? (h : scanWord? s = some (token, r)) :
    ∃ t, s = t ++ r ∧ token.Spells t := by
  unfold scanWord? at h
  split at h
  · cases h
    exact ⟨['n', 'u', 'l', 'l'], rfl, .null⟩
  · cases h
    exact ⟨['t', 'r', 'u', 'e'], rfl, .bool true⟩
  · cases h
    exact ⟨['f', 'a', 'l', 's', 'e'], rfl, .bool false⟩
  · cases h

theorem exists_spells_of_scanLiteral? (h : scanLiteral? s = some (token, r)) :
    ∃ t, s = t ++ r ∧ token.Spells t := by
  unfold scanLiteral? at h
  split at h
  · obtain ⟨⟨pieces, _⟩, scanned, same⟩ := Option.map_eq_some_iff.mp h
    cases same
    obtain ⟨t, inside, rfl⟩ := scanString_eq_some_iff.mp scanned
    exact ⟨'"' :: (t ++ ['"']), by simp, .string (.quoted inside)⟩
  · obtain ⟨⟨literal, _⟩, scanned, same⟩ := Option.map_eq_some_iff.mp h
    cases same
    obtain ⟨t, rfl, literal_is⟩ := exists_spells_of_scan scanned
    exact ⟨t, rfl, .number literal_is⟩

/-- What is scanned as a token is spelled as one. -/
theorem exists_spells_of_scanToken? (h : scanToken? s = some (token, r)) :
    ∃ t, s = t ++ r ∧ token.Spells t := by
  unfold scanToken? at h
  split at h
  · cases h
  · rename_i c _
    split at h
    · rename_i is_mark
      cases h
      exact ⟨[c], rfl, spells_of_mark? is_mark⟩
    · rcases Option.or_eq_some_iff.mp h with word | ⟨_, literal⟩
      · exact exists_spells_of_scanWord? word
      · exact exists_spells_of_scanLiteral? literal

/-- A string at the front comes first. -/
theorem tokens_of_spellsString {text : Option String} (string_is : SpellsString text t) :
    tokens (t ++ rest) = .string text :: tokens rest := by
  cases string_is with
  | quoted inside =>
    rename_i pieces s
    have whole : '"' :: (s ++ ['"']) ++ rest = '"' :: (s ++ '"' :: rest) := by simp
    rw [whole]
    refine tokens_cons rfl ?_
    show (scanString _).map _ = _
    rw [scanString_of_spells inside]
    rfl

/-- A number at the front comes first, unless what follows goes on with it. -/
theorem tokens_of_spellsNumber {literal : NumberLiteral} (literal_is : literal.Spells t)
    (ends : Ends rest) : tokens (t ++ rest) = .number literal.value? :: tokens rest := by
  have scanned := scan_of_spells literal_is ends
  obtain ⟨c, u, head, first⟩ := head_of_scan (scan_of_spells literal_is ends_nil)
  rw [List.append_nil] at head
  rw [head, List.cons_append] at scanned ⊢
  obtain ⟨text, token⟩ := scanToken?_of_scan (s := u ++ rest) first
  refine tokens_cons text ?_
  rw [token, scanned]
  rfl

theorem tokens_bool (b : Bool) :
    tokens ((if b then ['t', 'r', 'u', 'e'] else ['f', 'a', 'l', 's', 'e']) ++ rest) =
      .bool b :: tokens rest := by
  cases b
  · exact tokens_word rfl rfl rfl
  · exact tokens_word rfl rfl rfl

/-! ## Blanks -/

/-- A text is blanks and then something else, or nothing else. -/
theorem exists_dropWhile (s : List Char) :
    ∃ before, IsSpaces before ∧ s = before ++ s.dropWhile isSpace :=
  ⟨s.takeWhile isSpace, fun _ mem => List.mem_takeWhile_imp mem,
    List.takeWhile_append_dropWhile.symm⟩

/-- Blanks in front of a text do not count. -/
theorem tokens_dropWhile (s : List Char) : tokens (s.dropWhile isSpace) = tokens s := by
  have shorter : (s.dropWhile isSpace).length ≤ s.length :=
    (List.dropWhile_sublist isSpace).length_le
  have twice : (s.dropWhile isSpace).dropWhile isSpace = s.dropWhile isSpace :=
    List.dropWhile_idempotent isSpace s
  unfold tokens
  rw [tokensWithin_eq (Nat.le_refl _) (Nat.le_succ_of_le shorter),
    tokensWithin_eq (Nat.le_refl _) (Nat.le_succ s.length), tokensWithin, tokensWithin, twice]

theorem tokens_spaces {spaces : List Char} (are : IsSpaces spaces) :
    tokens (spaces ++ rest) = tokens rest := by
  rw [← tokens_dropWhile (spaces ++ rest), List.dropWhile_append_of_pos are, tokens_dropWhile]

/-- What is left behind the blanks in front has a first token. -/
theorem exists_tokens_cons {c : Char} {u : List Char} (behind : s.dropWhile isSpace = c :: u) :
    ∃ token ts, tokens s = token :: ts ∧ (token ≠ .unreadable →
      ∃ r, scanToken? (c :: u) = some (token, r) ∧ tokens r = ts) := by
  have text : isSpace c = false := by
    have first := List.head?_dropWhile_not isSpace s
    rw [behind] at first
    exact first
  rw [← tokens_dropWhile, behind]
  cases scanned : scanToken? (c :: u) with
  | none =>
    have start : (c :: u).dropWhile isSpace = c :: u :=
      List.dropWhile_cons_of_neg (Bool.eq_false_iff.mp text)
    refine ⟨.unreadable, [], ?_, fun readable => absurd rfl readable⟩
    show tokensWithin (u.length + 1) (c :: u) = _
    rw [tokensWithin, start]
    dsimp only
    rw [scanned]
  | some found =>
    obtain ⟨token, r⟩ := found
    exact ⟨token, tokens r, tokens_cons text scanned, fun _ => ⟨r, rfl, rfl⟩⟩

/-- A text without tokens is blank. -/
theorem tokens_eq_nil_iff : tokens s = [] ↔ IsSpaces s := by
  constructor
  · intro none
    cases behind : s.dropWhile isSpace with
    | nil => exact List.dropWhile_eq_nil_iff.mp behind
    | cons c u =>
      obtain ⟨_, _, some, _⟩ := exists_tokens_cons behind
      rw [none] at some
      cases some
  · intro are
    have whole : tokens (s ++ []) = tokens [] := tokens_spaces are
    rwa [List.append_nil] at whole

/-- The first token is spelled at the front, behind blanks. -/
theorem exists_spells_of_tokens {ts : List Token} (h : tokens s = token :: ts)
    (readable : token ≠ .unreadable) :
    ∃ before t r, s = before ++ (t ++ r) ∧ IsSpaces before ∧ token.Spells t ∧ tokens r = ts := by
  obtain ⟨before, before_are, whole⟩ := exists_dropWhile s
  cases behind : s.dropWhile isSpace with
  | nil =>
    rw [tokens_eq_nil_iff.mpr (List.dropWhile_eq_nil_iff.mp behind)] at h
    cases h
  | cons c u =>
    obtain ⟨_, _, first, scanned⟩ := exists_tokens_cons behind
    rw [first] at h
    cases h
    obtain ⟨r, scanned, rest⟩ := scanned readable
    obtain ⟨t, spelled, is⟩ := exists_spells_of_scanToken? scanned
    refine ⟨before, t, r, ?_, before_are, is, rest⟩
    rw [← spelled, ← behind]
    exact whole

end Json

end LoanGateway
