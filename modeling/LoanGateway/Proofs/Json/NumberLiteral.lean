import LoanGateway.Json.NumberLiteral
import LoanGateway.Proofs.Text.Digits
import Mathlib.Data.List.TakeWhile

/-!
# Written numbers are read back

A literal ends where neither a digit nor a point nor an exponent follows. Whole numbers are always
read back from their written form. Fractions need not be, since reading rounds in its own way.

- `NumberLiteral.Ends`: what may follow a literal.
- `NumberLiteral.scan_append`: a literal is the same whatever follows it.
- `Number.ReadsBack`: the written form of a number is a literal of that number.
- `Number.readsBack_natural`, `Number.readsBack_negative`: whole numbers.
-/

namespace LoanGateway

namespace NumberLiteral

/-- Neither a digit nor a point nor an exponent follows. -/
structure Ends (rest : List Char) : Prop where
  digit : Text.startsWithDigit rest = false
  point : rest.head? ≠ some '.'
  lower : rest.head? ≠ some 'e'
  upper : rest.head? ≠ some 'E'

theorem ends_nil : Ends [] := ⟨rfl, nofun, nofun, nofun⟩

/-! ## The parts of a literal and what follows them -/

variable {s r rest digits : List Char} {negative : Bool} {literal : NumberLiteral}

/-- The digits are all there are at the front. -/
theorem scanDigits_eq_some_iff :
    scanDigits s = some (digits, r) ↔
      s = digits ++ r ∧ digits ≠ [] ∧ (∀ c ∈ digits, c.isDigit = true) ∧
        Text.startsWithDigit r = false := by
  constructor
  · intro h
    unfold scanDigits at h
    dsimp only at h
    split at h
    · cases h
    · rename_i any
      cases h
      refine ⟨List.takeWhile_append_dropWhile.symm, by simpa using any,
        fun c mem => List.mem_takeWhile_imp mem, ?_⟩
      have first := List.head?_dropWhile_not Char.isDigit s
      unfold Text.startsWithDigit
      cases head : (s.dropWhile Char.isDigit).head? with
      | none => rfl
      | some c =>
        rw [head] at first
        exact first
  · rintro ⟨rfl, any, all, ends⟩
    unfold scanDigits
    rw [Text.takeWhile_digits all ends, Text.dropWhile_digits all ends]
    simp [any]

theorem scanDigits_append (ends : Ends rest) (h : scanDigits s = some (digits, r)) :
    scanDigits (s ++ rest) = some (digits, r ++ rest) := by
  obtain ⟨rfl, any, all, stops⟩ := scanDigits_eq_some_iff.mp h
  refine scanDigits_eq_some_iff.mpr ⟨List.append_assoc .., any, all, ?_⟩
  cases r with
  | nil => exact ends.digit
  | cons c r => exact stops

theorem scanFraction_of_ends (ends : Ends rest) : scanFraction rest = some ([], rest) := by
  unfold scanFraction
  split
  · exact absurd rfl ends.point
  · rfl

theorem scanFraction_append (ends : Ends rest) (h : scanFraction s = some (digits, r)) :
    scanFraction (s ++ rest) = some (digits, r ++ rest) := by
  cases s with
  | nil =>
    cases h
    exact scanFraction_of_ends ends
  | cons c s =>
    by_cases point : c = '.'
    · subst point
      exact scanDigits_append ends h
    · have whole (s : List Char) : scanFraction (c :: s) = some ([], c :: s) := by
        simp [scanFraction, point]
      rw [whole] at h
      cases h
      exact whole _

/-- What begins with no sign is scanned as digits. -/
theorem scanPower_of_ne {c : Char} (minus : c ≠ '-') (plus : c ≠ '+') (s : List Char) :
    scanPower (c :: s) = (scanDigits (c :: s)).map fun p => ((false, p.1), p.2) := by
  simp [scanPower, minus, plus]

theorem scanPower_append {power : Bool × List Char} (ends : Ends rest)
    (h : scanPower s = some (power, r)) : scanPower (s ++ rest) = some (power, r ++ rest) := by
  have signed {b : Bool} {s : List Char}
      (h : (scanDigits s).map (fun p => ((b, p.1), p.2)) = some (power, r)) :
      (scanDigits (s ++ rest)).map (fun p => ((b, p.1), p.2)) =
        some (power, r ++ rest) := by
    obtain ⟨⟨digits, r⟩, scanned, same⟩ := Option.map_eq_some_iff.mp h
    cases same
    rw [scanDigits_append ends scanned]
    rfl
  cases s with
  | nil => cases h
  | cons c s =>
    by_cases minus : c = '-'
    · subst minus
      exact signed h
    · by_cases plus : c = '+'
      · subst plus
        exact signed h
      · rw [scanPower_of_ne minus plus] at h
        rw [List.cons_append, scanPower_of_ne minus plus]
        exact signed h

theorem scanExponent_of_ends (ends : Ends rest) : scanExponent rest = some (none, rest) := by
  unfold scanExponent
  split
  · exact absurd rfl ends.lower
  · exact absurd rfl ends.upper
  · rfl

/-- Behind its mark, an exponent is a sign and digits. -/
theorem scanExponent_mark {mark : Char} (is_mark : mark = 'e' ∨ mark = 'E') (s : List Char) :
    scanExponent (mark :: s) = (scanPower s).map fun p => (some p.1, p.2) := by
  rcases is_mark with rfl | rfl
  · rfl
  · rfl

theorem scanExponent_append {exponent : Option (Bool × List Char)} (ends : Ends rest)
    (h : scanExponent s = some (exponent, r)) :
    scanExponent (s ++ rest) = some (exponent, r ++ rest) := by
  cases s with
  | nil =>
    cases h
    exact scanExponent_of_ends ends
  | cons c s =>
    by_cases is_mark : c = 'e' ∨ c = 'E'
    · rw [scanExponent_mark is_mark] at h
      obtain ⟨⟨power, r⟩, scanned, same⟩ := Option.map_eq_some_iff.mp h
      cases same
      rw [List.cons_append, scanExponent_mark is_mark, scanPower_append ends scanned]
      rfl
    · have nothing (s : List Char) : scanExponent (c :: s) = some (none, c :: s) := by
        obtain ⟨lower, upper⟩ := not_or.mp is_mark
        simp [scanExponent, lower, upper]
      rw [nothing] at h
      cases h
      exact nothing _

/-! ## Whole literals -/

/-- The parts of a literal without its sign, one after the other. -/
theorem scanUnsigned_eq_some_iff :
    scanUnsigned negative s = some (literal, r) ↔
      ∃ whole s₁ fraction s₂ exponent, scanDigits s = some (whole, s₁) ∧
        ¬ (whole.head? = some '0' ∧ 1 < whole.length) ∧
        scanFraction s₁ = some (fraction, s₂) ∧ scanExponent s₂ = some (exponent, r) ∧
        literal = ⟨negative, whole, fraction, exponent⟩ := by
  constructor
  · intro h
    unfold scanUnsigned at h
    obtain ⟨⟨whole, s₁⟩, digits, h⟩ := Option.bind_eq_some_iff.mp h
    dsimp only at h
    split at h
    · cases h
    · rename_i zero
      obtain ⟨⟨fraction, s₂⟩, point, h⟩ := Option.bind_eq_some_iff.mp h
      obtain ⟨⟨exponent, s₃⟩, power, h⟩ := Option.bind_eq_some_iff.mp h
      cases h
      exact ⟨whole, s₁, fraction, s₂, exponent, digits, by simpa using zero, point, power, rfl⟩
  · rintro ⟨whole, s₁, fraction, s₂, exponent, digits, zero, point, power, rfl⟩
    simp [scanUnsigned, digits, zero, point, power]

theorem scanUnsigned_append (ends : Ends rest) (h : scanUnsigned negative s = some (literal, r)) :
    scanUnsigned negative (s ++ rest) = some (literal, r ++ rest) := by
  obtain ⟨whole, s₁, fraction, s₂, exponent, digits, zero, point, power, rfl⟩ :=
    scanUnsigned_eq_some_iff.mp h
  exact scanUnsigned_eq_some_iff.mpr ⟨whole, s₁ ++ rest, fraction, s₂ ++ rest, exponent,
    scanDigits_append ends digits, zero, scanFraction_append ends point,
    scanExponent_append ends power, rfl⟩

/-- A literal without its sign begins with a digit. -/
theorem head_of_scanUnsigned (h : scanUnsigned negative s = some (literal, r)) :
    ∃ c t, s = c :: t ∧ c.isDigit = true := by
  obtain ⟨whole, s₁, _, _, _, scanned, _⟩ := scanUnsigned_eq_some_iff.mp h
  obtain ⟨rfl, any, all, _⟩ := scanDigits_eq_some_iff.mp scanned
  cases whole with
  | nil => exact absurd rfl any
  | cons c whole => exact ⟨c, whole ++ s₁, rfl, all c List.mem_cons_self⟩

theorem scan_of_ne {c : Char} (sign : c ≠ '-') (s : List Char) :
    scan (c :: s) = scanUnsigned false (c :: s) := by
  simp [scan, sign]

/-- A literal begins with its sign or with a digit. -/
theorem head_of_scan (h : scan s = some (literal, r)) :
    ∃ c t, s = c :: t ∧ (c = '-' ∨ c.isDigit = true) := by
  cases s with
  | nil => cases h
  | cons c t =>
    by_cases sign : c = '-'
    · exact ⟨c, t, rfl, .inl sign⟩
    · rw [scan_of_ne sign] at h
      obtain ⟨_, _, same, digit⟩ := head_of_scanUnsigned h
      cases same
      exact ⟨c, t, rfl, .inr digit⟩

/-- A literal is the same whatever follows it, unless that goes on with it. -/
theorem scan_append (ends : Ends rest) (h : scan s = some (literal, r)) :
    scan (s ++ rest) = some (literal, r ++ rest) := by
  cases s with
  | nil => cases h
  | cons c t =>
    by_cases sign : c = '-'
    · subst sign
      exact scanUnsigned_append ends h
    · rw [scan_of_ne sign] at h
      rw [List.cons_append, scan_of_ne sign]
      exact scanUnsigned_append ends h

/-- The digits of a number are a literal of their own. -/
theorem scanUnsigned_toDigits (negative : Bool) (n : Nat) :
    scanUnsigned negative (Nat.toDigits 10 n) =
      some (⟨negative, Nat.toDigits 10 n, [], none⟩, []) := by
  refine scanUnsigned_eq_some_iff.mpr ⟨_, [], [], [], none, ?_, ?_, rfl, rfl, rfl⟩
  · exact scanDigits_eq_some_iff.mpr
      ⟨(List.append_nil _).symm, Nat.toDigits_ne_nil, Text.isDigit_of_mem_toDigits, rfl⟩
  · rintro ⟨zero, long⟩
    cases n with
    | zero => exact absurd long (by decide)
    | succ n => exact Text.head?_toDigits_ne (Nat.succ_pos n) zero

/-- Digits are counted to their end if their number is below the bound. -/
theorem absorb_eq {bound n : Nat} {digits : List Char} (below : Nat.ofDigitChars 10 digits n < bound) :
    absorb bound n digits = (Nat.ofDigitChars 10 digits n, []) := by
  induction digits generalizing n with
  | nil => rfl
  | cons c digits ih =>
    rw [Nat.ofDigitChars_cons] at below ⊢
    have next : n * 10 + (c.toNat - '0'.toNat) < bound := by
      have more := Text.le_ofDigitChars (10 * n + (c.toNat - '0'.toNat)) digits
      omega
    rw [absorb, if_pos next, Nat.mul_comm n 10]
    exact ih below

theorem absorb_toDigits {bound n : Nat} (below : n < bound) :
    absorb bound 0 (Nat.toDigits 10 n) = (n, []) := by
  have value : Nat.ofDigitChars 10 (Nat.toDigits 10 n) 0 = n :=
    Nat.ofDigitChars_toDigits (by omega) (by omega)
  rw [absorb_eq (by omega), value]

end NumberLiteral

namespace Number

/-- The written form of a number is a literal, and the number of that literal is the same. -/
def ReadsBack (n : Number) : Prop :=
  ∃ literal, NumberLiteral.scan n.text = some (literal, []) ∧ literal.value? = some n

theorem readsBack_natural {n : Nat} (below : n < Nat.pow 2 64) : (natural n).ReadsBack := by
  refine ⟨⟨false, Nat.toDigits 10 n, [], none⟩, ?_, ?_⟩
  · show NumberLiteral.scan (Nat.toDigits 10 n) = _
    have scanned := NumberLiteral.scanUnsigned_toDigits false n
    obtain ⟨c, t, digits, first⟩ := NumberLiteral.head_of_scanUnsigned scanned
    rw [digits] at scanned ⊢
    rw [NumberLiteral.scan_of_ne (by rintro rfl; cases first)]
    exact scanned
  · simp only [NumberLiteral.value?]
    rw [NumberLiteral.absorb_toDigits below]
    rfl

theorem readsBack_negative {n : Nat} (pos : 0 < n) (range : n ≤ Nat.pow 2 63) :
    (negative n).ReadsBack := by
  refine ⟨⟨true, Nat.toDigits 10 n, [], none⟩, NumberLiteral.scanUnsigned_toDigits true n, ?_⟩
  have below : n < Nat.pow 2 64 := Nat.lt_of_le_of_lt range (by decide)
  have kept : ¬ (n = 0 ∨ Nat.pow 2 63 < n) := by
    rintro (rfl | large)
    · exact absurd pos (by omega)
    · exact absurd range (Nat.not_le_of_lt large)
  simp only [NumberLiteral.value?]
  rw [NumberLiteral.absorb_toDigits below]
  simpa using kept

end Number

end LoanGateway
