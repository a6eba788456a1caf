import LoanGateway.Json.Token
import LoanGateway.Proofs.Json.NumberLiteral
import LoanGateway.Proofs.Json.StringLiteral

/-!
# Tokens, one after the other

Every token takes at least one character away, so the tokens of a text are its first token and those
of the rest.

- `length_scanToken?_lt`: a token takes at least one character.
- `tokens_cons`: the first token and the rest.
- `tokens_mark`, `tokens_word`, `scanToken?_of_scan`: the first token of texts of each sort.
-/

namespace LoanGateway.Json

open NumberLiteral

variable {s r rest : List Char} {token : Token}

/-! ## Literals are not empty -/

theorem length_scanString_lt {pieces : List StringPiece} (h : scanString s = some (pieces, r)) :
    r.length < s.length := by
  fun_induction scanString s generalizing pieces r with
  | case1 => cases h
  | case2 =>
    cases h
    exact Nat.lt_succ_self _
  | case3 a b c d rest ih =>
    obtain ⟨_, _, h⟩ := Option.bind_eq_some_iff.mp h
    obtain ⟨⟨_, _⟩, inner, h⟩ := Option.bind_eq_some_iff.mp h
    cases h
    have shorter := ih inner
    simp only [List.length_cons]
    omega
  | case4 e rest _ ih =>
    obtain ⟨_, _, h⟩ := Option.bind_eq_some_iff.mp h
    obtain ⟨⟨_, _⟩, inner, h⟩ := Option.bind_eq_some_iff.mp h
    cases h
    have shorter := ih inner
    simp only [List.length_cons]
    omega
  | case5 => cases h
  | case6 =>
    rename_i ih
    obtain ⟨⟨_, _⟩, inner, h⟩ := Option.bind_eq_some_iff.mp h
    cases h
    exact Nat.lt_succ_of_lt (ih inner)

theorem length_scanDigits_lt {digits : List Char} (h : scanDigits s = some (digits, r)) :
    r.length < s.length := by
  obtain ⟨rfl, any, _⟩ := scanDigits_eq_some_iff.mp h
  have pos : 0 < digits.length := List.length_pos_iff.mpr any
  rw [List.length_append]
  omega

theorem length_scanFraction_le {digits : List Char} (h : scanFraction s = some (digits, r)) :
    r.length ≤ s.length := by
  unfold scanFraction at h
  split at h
  · exact Nat.le_succ_of_le (Nat.le_of_lt (length_scanDigits_lt h))
  · cases h
    exact Nat.le_refl _

theorem length_scanPower_le {power : Bool × List Char} (h : scanPower s = some (power, r)) :
    r.length ≤ s.length := by
  have signed {b : Bool} {s : List Char}
      (h : (scanDigits s).map (fun p => ((b, p.1), p.2)) = some (power, r)) :
      r.length ≤ s.length := by
    obtain ⟨⟨_, _⟩, scanned, same⟩ := Option.map_eq_some_iff.mp h
    cases same
    exact Nat.le_of_lt (length_scanDigits_lt scanned)
  unfold scanPower at h
  split at h
  · exact Nat.le_succ_of_le (signed h)
  · exact Nat.le_succ_of_le (signed h)
  · exact signed h

theorem length_scanExponent_le {exponent : Option (Bool × List Char)}
    (h : scanExponent s = some (exponent, r)) : r.length ≤ s.length := by
  have marked {s : List Char}
      (h : (scanPower s).map (fun p => (some p.1, p.2)) = some (exponent, r)) :
      r.length ≤ s.length := by
    obtain ⟨⟨_, _⟩, scanned, same⟩ := Option.map_eq_some_iff.mp h
    cases same
    exact length_scanPower_le scanned
  unfold scanExponent at h
  split at h
  · exact Nat.le_succ_of_le (marked h)
  · exact Nat.le_succ_of_le (marked h)
  · cases h
    exact Nat.le_refl _

theorem length_scanNumber_lt {literal : NumberLiteral} (h : scan s = some (literal, r)) :
    r.length < s.length := by
  have unsigned {negative : Bool} {s : List Char}
      (h : scanUnsigned negative s = some (literal, r)) : r.length < s.length := by
    obtain ⟨_, _, _, _, _, digits, _, point, power, _⟩ := scanUnsigned_eq_some_iff.mp h
    have first := length_scanDigits_lt digits
    have second := length_scanFraction_le point
    have third := length_scanExponent_le power
    omega
  unfold scan at h
  split at h
  · exact Nat.lt_succ_of_lt (unsigned h)
  · exact unsigned h

theorem length_scanWord?_lt (h : scanWord? s = some (token, r)) : r.length < s.length := by
  unfold scanWord? at h
  split at h
  all_goals
    cases h
    try simp only [List.length_cons]
    try omega

theorem length_scanLiteral?_lt (h : scanLiteral? s = some (token, r)) : r.length < s.length := by
  unfold scanLiteral? at h
  split at h
  · obtain ⟨⟨_, _⟩, scanned, same⟩ := Option.map_eq_some_iff.mp h
    cases same
    exact Nat.lt_succ_of_lt (length_scanString_lt scanned)
  · obtain ⟨⟨_, _⟩, scanned, same⟩ := Option.map_eq_some_iff.mp h
    cases same
    exact length_scanNumber_lt scanned

theorem length_scanToken?_lt (h : scanToken? s = some (token, r)) : r.length < s.length := by
  unfold scanToken? at h
  split at h
  · cases h
  · split at h
    · cases h
      exact Nat.lt_succ_self _
    · rcases Option.or_eq_some_iff.mp h with word | ⟨_, literal⟩
      · exact length_scanWord?_lt word
      · exact length_scanLiteral?_lt literal

/-! ## One token after the other -/

/-- The count of characters that `tokens` starts with is enough, and more does no harm. -/
theorem tokensWithin_eq {fuel more : Nat} (enough : s.length ≤ fuel) (also : s.length ≤ more) :
    tokensWithin fuel s = tokensWithin more s := by
  induction fuel generalizing s more with
  | zero =>
    obtain rfl : s = [] := List.eq_nil_of_length_eq_zero (Nat.le_zero.mp enough)
    cases more <;> rfl
  | succ fuel ih =>
    cases more with
    | zero =>
      obtain rfl : s = [] := List.eq_nil_of_length_eq_zero (Nat.le_zero.mp also)
      rfl
    | succ more =>
      have trimmed : (s.dropWhile isSpace).length ≤ s.length :=
        (List.dropWhile_sublist isSpace).length_le
      rw [tokensWithin, tokensWithin]
      split
      · rfl
      · split
        · rename_i token r scanned
          -- a token takes a character at least, so both counts are enough for the rest
          have shorter := length_scanToken?_lt scanned
          exact congrArg _ (ih (by omega) (by omega))
        · rfl

theorem scanToken?_cons (c : Char) (s : List Char) :
    scanToken? (c :: s) = match mark? c with
      | some token => some (token, s)
      | none => (scanWord? (c :: s)).or (scanLiteral? (c :: s)) := rfl

/-- The first token and the tokens of the rest. -/
theorem tokens_cons {c : Char} (text : isSpace c = false)
    (first : scanToken? (c :: s) = some (token, r)) : tokens (c :: s) = token :: tokens r := by
  have shorter : r.length < s.length + 1 := length_scanToken?_lt first
  have start : (c :: s).dropWhile isSpace = c :: s :=
    List.dropWhile_cons_of_neg (Bool.eq_false_iff.mp text)
  show tokensWithin (s.length + 1) (c :: s) = _
  rw [tokensWithin, start]
  dsimp only
  rw [first]
  exact congrArg _ (tokensWithin_eq (by omega) (Nat.le_refl _))

theorem tokens_nil : tokens [] = [] := rfl

/-- A mark is a token of its own. -/
theorem tokens_mark {c : Char} (mark : mark? c = some token) :
    tokens (c :: rest) = token :: tokens rest := by
  have text : isSpace c = false := by
    unfold isSpace
    cases space : (c == ' ' || c == '\t' || c == '\n' || c == '\r') with
    | false => rfl
    | true =>
      simp only [Bool.or_eq_true, beq_iff_eq] at space
      rcases space with ((rfl | rfl) | rfl) | rfl <;> cases mark
  refine tokens_cons text ?_
  rw [scanToken?_cons, mark]

theorem tokens_word {c : Char} (text : isSpace c = false) (mark : mark? c = none)
    (word : scanWord? (c :: s) = some (token, r)) : tokens (c :: s) = token :: tokens r := by
  refine tokens_cons text ?_
  rw [scanToken?_cons, mark, word]
  rfl

/-- A sign or a digit is no space and begins neither a mark nor a word nor a text. -/
theorem scanToken?_of_scan {c : Char} (h : c = '-' ∨ c.isDigit = true) :
    isSpace c = false ∧ scanToken? (c :: s) =
      (scan (c :: s)).map fun (literal, rest) => (.number literal.value?, rest) := by
  have ne {other : Char} (no : other ≠ '-' ∧ other.isDigit = false) : c ≠ other := by
    rintro rfl
    rcases h with sign | digit
    · exact no.1 sign
    · exact absurd (digit.symm.trans no.2) (by decide)
  constructor
  · have blank : c ≠ ' ' := ne (by decide)
    have tab : c ≠ '\t' := ne (by decide)
    have line : c ≠ '\n' := ne (by decide)
    have feed : c ≠ '\r' := ne (by decide)
    simp [isSpace, blank, tab, line, feed]
  · have mark : mark? c = none := by
      unfold mark?
      split <;> first | rfl | exact absurd rfl (ne (by decide))
    have word : scanWord? (c :: s) = none := by
      unfold scanWord?
      split
      · rename_i same
        cases same
        exact absurd rfl (ne (by decide))
      · rename_i same
        cases same
        exact absurd rfl (ne (by decide))
      · rename_i same
        cases same
        exact absurd rfl (ne (by decide))
      · rfl
    have quote : c ≠ '"' := ne (by decide)
    rw [scanToken?_cons, mark]
    dsimp only
    rw [word, Option.none_or]
    unfold scanLiteral?
    split
    · rename_i same
      cases same
      exact absurd rfl quote
    · rfl

end LoanGateway.Json
