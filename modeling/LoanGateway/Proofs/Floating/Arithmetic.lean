import LoanGateway.Proofs.Floating.Magnitude

/-!
# Floating-point arithmetic

- `Holds`: a number stands for a value.
- `exists_holds_mul`, `exists_holds_div`: products and quotients are near the exact ones.
- `holds_ofNat`: natural numbers below `2 ^ 53` are exact.
- `Holds.lt_iff`: numbers are compared by their values.
- `Holds.toNat_toUInt64`: a number is truncated to the natural number below its value.
-/

namespace LoanGateway.Floating

open Float.Model (Format UnpackedFloat)
open Float.Model.UnpackedFloat

/-- A number is not negative and stands for a value. -/
def Holds (x : Float) (v : ℚ) : Prop := Shows x.toModel.unpack v

namespace Holds

variable {x : Float} {v : ℚ}

theorem nonneg (holds : Holds x v) : 0 ≤ v := Shows.nonneg holds

theorem isNaN_eq_false (holds : Holds x v) : x.isNaN = false := Shows.isNaN_eq_false holds

theorem isFinite (holds : Holds x v) (small : v < 2 ^ 1024) : x.isFinite := Shows.isFinite holds small

theorem onGrid (holds : Holds x v) (finite : x.isFinite) : OnGrid v := Shows.onGrid holds finite

theorem isFinite_or_isInf (holds : Holds x v) : x.isFinite ∨ x.isInf := Shows.isFinite_or_isInf holds

/-- The infinite number stands for the values that are too large for a finite one. -/
theorem isInf_iff (holds : Holds x v) : x.isInf ↔ 2 ^ 1024 ≤ v := by
  refine ⟨Shows.large holds, fun large => ?_⟩
  unfold Holds at holds
  show x.toModel.unpack.isInf
  generalize number : x.toModel.unpack = u at holds ⊢
  cases holds with
  | infinity => rfl
  | zero => exact absurd large (not_le.mpr (by positivity))
  | finite canonical =>
    have small := (isCanonical_of_unpack number).2
    exact absurd large (not_le.mpr (scaled_of_small canonical small))

end Holds

/-! ## Products -/

section Products

variable {x y : Float} {a b : ℚ} {m n : Nat} {e f : Int}

/-- The digits of a product are enough to be rounded. -/
theorem IsCanonical.mul_full (canonical : IsCanonical m e) (other : IsCanonical n f) :
    2 ^ 52 ≤ m * n ∨ e + f ≤ -1074 := by
  have left := canonical.pos
  have right := other.pos
  rcases canonical.full with full | low
  · exact .inl (full.trans (Nat.le_mul_of_pos_right m right))
  rcases other.full with full | low'
  · exact .inl (full.trans (Nat.le_mul_of_pos_left n left))
  · exact .inr (by omega)

/-- Products are rounded, and the product with an infinite number is infinite, unless the other factor is
too small. -/
theorem exists_shows_mul {u w : UnpackedFloat} (left : Shows u a) (right : Shows w b)
    (leftInfinite : u.isInf → 1 ≤ b) (rightInfinite : w.isInf → 1 ≤ a) :
    ∃ r, Shows (Float.Model.pack (mul Format.binary64 u w)).unpack r ∧ Near (a * b) r := by
  have leftNonneg := left.nonneg
  have rightNonneg := right.nonneg
  cases left with
  | zero s =>
    rw [zero_mul]
    cases right with
    | infinity large => exact absurd (rightInfinite rfl) (by norm_num)
    | _ => exact ⟨0, shows_pack_zero _, .refl 0⟩
  | finite canonical =>
    cases right with
    | zero t =>
      rw [mul_zero]
      exact ⟨0, shows_pack_zero _, .refl 0⟩
    | finite other =>
      exact exists_shows_roundWithAccuracy (scaled_mul_scaled _ _ _ _) (canonical.mul_full other)
    | infinity large =>
      have above := le_mul_of_one_le_left rightNonneg (rightInfinite rfl)
      exact ⟨_, shows_pack_infinity (large.trans above), .refl _⟩
  | infinity large =>
    have above := le_mul_of_one_le_right leftNonneg (leftInfinite rfl)
    cases right with
    | zero t => exact absurd (leftInfinite rfl) (by norm_num)
    | _ => exact ⟨_, shows_pack_infinity (large.trans above), .refl _⟩

theorem exists_holds_mul (left : Holds x a) (right : Holds y b) (leftInfinite : x.isInf → 1 ≤ b)
    (rightInfinite : y.isInf → 1 ≤ a) : ∃ r, Holds (x * y) r ∧ Near (a * b) r :=
  exists_shows_mul left right leftInfinite rightInfinite

/-- A factor of one is exact. -/
theorem holds_one_mul (left : Holds x 1) (right : Holds y b) : Holds (x * y) b := by
  have small : (1 : ℚ) < 2 ^ 1024 := one_lt_pow₀ one_lt_two (by decide)
  obtain ⟨r, product, near⟩ := exists_holds_mul left right
    (fun infinite => absurd (left.isInf_iff.mp infinite) (not_le.mpr small)) (fun _ => le_rfl)
  rw [one_mul] at near
  rcases right.isFinite_or_isInf with finite | infinite
  · rwa [near.eq_of_onGrid (right.onGrid finite)] at product
  · have large := right.isInf_iff.mp infinite
    have overflow := product.isInf_iff.mpr (near.ge (onGrid_two_pow 1024) large)
    exact Shows.of_isInf product overflow large

end Products

/-! ## Quotients -/

section Quotients

variable {x y : Float} {a b : ℚ} {m n : Nat} {e f : Int}

/-- The remainder of a division tells how the quotient goes on. -/
theorem within_div (m : Nat) {n : Nat} (pos : 0 < n) (e : Int) :
    Within (accuracyOfFraction (m % n) n) (m / n) e (scaled m e / n) := by
  have positive : (0 : ℚ) < n := Nat.cast_pos.mpr pos
  have times (q : Nat) : scaled q e * n = scaled (q * n) e := by
    unfold scaled
    push_cast
    ring
  have divided : n * (m / n) + m % n = m := Nat.div_add_mod m n
  unfold accuracyOfFraction
  split
  case isTrue divides =>
    show scaled m e / n = scaled (m / n) e
    rw [div_eq_iff positive.ne', times, Nat.div_mul_cancel (Nat.dvd_of_mod_eq_zero divides)]
  case isFalse remains =>
    have below : m % n < n := Nat.mod_lt m pos
    constructor
    · rw [lt_div_iff₀ positive, times, scaled_lt_scaled_iff, Nat.mul_comm]
      omega
    · rw [div_lt_iff₀ positive, times, scaled_lt_scaled_iff, Nat.mul_comm, Nat.mul_succ]
      omega

/-- The exponent of a quotient. -/
theorem targetExponent_quotient (m n : Nat) (e f : Int) :
    Format.binary64.targetExponent (Float.Model.totalExponent m e - Float.Model.totalExponent n f) =
      max (m.log2 + e - (n.log2 + f) - 53) (-1074) := by
  simp only [Format.targetExponent, Float.Model.totalExponent, Format.mantissaBits, Format.minExponent]
  omega

/-- A quotient has enough digits to be rounded, and is accurate in the others. -/
theorem divCore_spec {m n : Nat} (mPos : 0 < m) (nPos : 0 < n) (e f : Int) :
    ∃ q g acc, divCore Format.binary64 m e n f = (q, g, acc) ∧
      Within acc q g (scaled m e / scaled n f) ∧ (2 ^ 52 ≤ q ∨ g ≤ -1074) := by
  simp only [divCore, targetExponent_quotient, Nat.shiftLeft_eq]
  generalize exponent : min (e - f) (max (m.log2 + e - (n.log2 + f) - 53) (-1074)) = g
  generalize shift : (e - f - g).toNat = s
  refine ⟨_, _, _, rfl, ?_, ?_⟩
  · have value : scaled m e / scaled n f = scaled (m * 2 ^ s) g / n := by
      have place : g + s = e - f := by omega
      rw [scaled_mul_two_pow, place, scaled, scaled, scaled, zpow_sub₀ two_ne_zero]
      field_simp
    rw [value]
    exact within_div _ nPos g
  · by_cases low : g ≤ -1074
    · exact .inr low
    left
    rw [Nat.le_div_iff_mul_le nPos]
    have upper : n < 2 ^ (n.log2 + 1) := Nat.lt_log2_self
    calc 2 ^ 52 * n ≤ 2 ^ 52 * 2 ^ (n.log2 + 1) := Nat.mul_le_mul_left _ upper.le
      _ = 2 ^ (52 + (n.log2 + 1)) := (Nat.pow_add ..).symm
      _ ≤ m * 2 ^ s := two_pow_le_mul mPos (by omega)

/-- Quotients of finite numbers are rounded. -/
theorem exists_shows_div {u w : UnpackedFloat} (left : Shows u a) (right : Shows w b)
    (leftFinite : u.isFinite) (rightFinite : w.isFinite) (nonzero : b ≠ 0) :
    ∃ r, Shows (Float.Model.pack (div Format.binary64 u w)).unpack r ∧ Near (a / b) r := by
  cases right with
  | zero t => exact absurd rfl nonzero
  | infinity large => cases rightFinite
  | @finite n f other =>
    cases left with
    | zero s =>
      rw [zero_div]
      exact ⟨0, shows_pack_zero _, .refl 0⟩
    | infinity large => cases leftFinite
    | @finite m e canonical =>
      obtain ⟨q, g, acc, quotient, within, full⟩ :=
        divCore_spec canonical.pos other.pos e f
      obtain ⟨r, shown, near⟩ := exists_shows_roundWithAccuracy within full
      refine ⟨r, ?_, near⟩
      rw [div, quotient]
      exact shown

theorem exists_holds_div (left : Holds x a) (right : Holds y b) (leftFinite : x.isFinite)
    (rightFinite : y.isFinite) (nonzero : b ≠ 0) : ∃ r, Holds (x / y) r ∧ Near (a / b) r :=
  exists_shows_div left right leftFinite rightFinite nonzero

theorem shows_div_infinite {u w : UnpackedFloat} (finite : u.isFinite) (infinite : w.isInf) :
    Shows (Float.Model.pack (div Format.binary64 u w)).unpack 0 := by
  cases w with
  | infinity t =>
    cases u with
    | notANumber => cases finite
    | infinity s => cases finite
    | _ => exact shows_pack_zero _
  | _ => cases infinite

theorem holds_div_infinite (finite : x.isFinite) (infinite : y.isInf) : Holds (x / y) 0 :=
  shows_div_infinite finite infinite

end Quotients

/-! ## Natural numbers -/

section Naturals

/-- Numbers are rounded. -/
theorem exists_shows_round {m : Nat} (pos : 0 < m) (e : Int) :
    ∃ r, Shows (Float.Model.pack (UnpackedFloat.round Format.binary64 .positive m e)).unpack r ∧
      Near (scaled m e) r := by
  simp only [UnpackedFloat.round, decreaseExponent, targetExponent_eq, Nat.shiftLeft_eq]
  generalize shift : (e - lastPlace m e).toNat = s
  have value : scaled m e = scaled (m * 2 ^ s) (e - s) := by
    rw [scaled_mul_two_pow]
    congr 1
    omega
  refine exists_shows_roundWithAccuracy value ?_
  by_cases low : e - s ≤ -1074
  · exact .inr low
  left
  unfold lastPlace at shift
  exact two_pow_le_mul pos (by omega)

theorem holds_zero : Holds 0 0 := .zero .positive

theorem holds_one : Holds 1 1 := by
  have one : (1 : ℚ) = scaled (2 ^ 52) (-52) := by norm_num [scaled]
  rw [one]
  exact .finite ⟨by decide, by decide, by decide, .inl le_rfl⟩

theorem holds_toFloat {w : UInt64} {n : Nat} (word : w.toNat = n) (small : n < 2 ^ 53) :
    Holds w.toFloat n := by
  show Shows (Float.Model.pack (normalize Format.binary64 w.toNat 0 .positive)).unpack n
  rw [word]
  cases n with
  | zero => exact shows_pack_zero .positive
  | succ n =>
    obtain ⟨r, shown, near⟩ := exists_shows_round n.succ_pos 0
    rw [scaled_exponent_zero] at near
    rw [← near.eq_of_onGrid (onGrid_natCast small)]
    exact shown

/-- A natural number with 53 digits or less is exact. -/
theorem holds_ofNat {n : Nat} (small : n < 2 ^ 53) : Holds (Float.ofNat n) n := by
  have fast : Float.ofNat n = n.toUInt64.toFloat * 1 := by
    show Float.ofScientific n false 0 = _
    rw [Float.ofScientific, dif_pos ⟨small, by decide⟩]
    rfl
  have word : n.toUInt64.toNat = n := Nat.mod_eq_of_lt (small.trans (by decide))
  obtain ⟨r, holds, near⟩ :=
    exists_holds_mul (holds_toFloat word small) holds_one (fun _ => le_rfl) nofun
  rw [mul_one] at near
  rw [fast, ← near.eq_of_onGrid (onGrid_natCast small)]
  exact holds

end Naturals

/-! ## Comparison -/

section Comparison

variable {x y : Float} {a b : ℚ}

/-- Of two numbers in canonical form the one with the smaller exponent is smaller. -/
theorem IsCanonical.scaled_lt {m n : Nat} {e f : Int} (canonical : IsCanonical m e)
    (other : IsCanonical n f) (below : e < f) : scaled m e < scaled n f := by
  have full : 2 ^ 52 ≤ n := other.full.resolve_right (by have := canonical.least; omega)
  have base : (2 : ℚ) ^ (e + 1) ≤ 2 ^ f := zpow_le_zpow_right₀ one_le_two below
  calc scaled m e < scaled (2 ^ 52 * 2 ^ 1) e := scaled_lt_scaled_iff.mpr canonical.lt
    _ = scaled (2 ^ 52) (e + 1) := scaled_mul_two_pow (2 ^ 52) 1 e
    _ ≤ scaled (2 ^ 52) f := mul_le_mul_of_nonneg_left base (Nat.cast_nonneg _)
    _ ≤ scaled n f := scaled_le_scaled_iff.mpr full

theorem IsCanonical.compare_eq_lt_iff {m n : Nat} {e f : Int} (canonical : IsCanonical m e)
    (other : IsCanonical n f) :
    (compare e f).then (compare m n) = .lt ↔ scaled m e < scaled n f := by
  rw [Ordering.then_eq_lt, compare_lt_iff_lt, compare_eq_iff_eq, compare_lt_iff_lt]
  rcases lt_trichotomy e f with below | rfl | above
  · simp [below, canonical.scaled_lt other below]
  · simp [scaled_lt_scaled_iff]
  · have := other.scaled_lt canonical above
    simp [above.not_gt, above.ne', this.le]

theorem shows_lt_iff {u w : UnpackedFloat} (left : Shows u a) (right : Shows w b)
    (small : b < 2 ^ 1024) : u.lt w ↔ a < b := by
  have rightNonneg := right.nonneg
  cases right with
  | infinity large => exact absurd small (not_lt.mpr large)
  | zero t =>
    have leftNonneg := left.nonneg
    cases left <;> exact iff_of_false nofun (not_lt.mpr leftNonneg)
  | finite other =>
    cases left with
    | zero s => exact iff_of_true rfl (scaled_pos other.pos _)
    | finite canonical =>
      rw [← canonical.compare_eq_lt_iff other]
      exact beq_iff_eq.trans (Option.some_inj)
    | infinity large => exact iff_of_false nofun (not_lt.mpr (small.le.trans large))

/-- Numbers are compared by their values, unless the second one is infinite. -/
theorem Holds.lt_iff (left : Holds x a) (right : Holds y b) (small : b < 2 ^ 1024) :
    x < y ↔ a < b := by
  rw [← shows_lt_iff left right small]
  exact decide_eq_true_iff

end Comparison

/-! ## Zero and infinity -/

section Zero

variable {x y : Float} {a : ℚ}

/-- A number is zero, of either sign. -/
def IsZero (x : Float) : Prop := ∃ sign, x.toModel.unpack = .zero sign

theorem isZero_zero : IsZero 0 := ⟨.positive, rfl⟩

theorem unpack_pack_mul_zero {u : UnpackedFloat} (finite : u.isFinite) (t : Sign) :
    ∃ s, (Float.Model.pack (mul Format.binary64 u (.zero t))).unpack = .zero s := by
  cases u with
  | notANumber => cases finite
  | infinity s => cases finite
  | zero s => exact ⟨_, unpack_pack_zero _⟩
  | finite s m e pos => exact ⟨_, unpack_pack_zero _⟩

theorem isZero_mul (finite : x.isFinite) (zero : IsZero y) : IsZero (x * y) := by
  obtain ⟨t, zero⟩ := zero
  show ∃ s, (Float.Model.pack (mul Format.binary64 x.toModel.unpack y.toModel.unpack)).unpack = .zero s
  rw [zero]
  exact unpack_pack_mul_zero finite t

theorem unpack_pack_zero_mul (s : Sign) {u : UnpackedFloat} (infinite : u.isInf) :
    (Float.Model.pack (mul Format.binary64 (.zero s) u)).unpack = .notANumber := by
  cases u with
  | infinity t => exact unpack_pack_notANumber
  | _ => cases infinite

/-- Zero times infinity is not a number. -/
theorem isNaN_mul (zero : IsZero x) (infinite : y.isInf) : (x * y).isNaN := by
  obtain ⟨s, zero⟩ := zero
  show (Float.Model.pack (mul Format.binary64 x.toModel.unpack y.toModel.unpack)).unpack.isNaN
  rw [zero, unpack_pack_zero_mul s infinite]
  rfl

theorem shows_add_zero {u : UnpackedFloat} (shown : Shows u a) (t : Sign) :
    Shows (Float.Model.pack (add Format.binary64 u (.zero t))).unpack a := by
  cases shown with
  | zero s => cases s <;> cases t <;> exact shows_pack_zero _
  | finite canonical => exact shows_pack canonical
  | infinity large => exact shows_pack_infinity large

theorem Holds.add_isZero (holds : Holds x a) (zero : IsZero y) : Holds (x + y) a := by
  obtain ⟨t, zero⟩ := zero
  show Shows (Float.Model.pack (add Format.binary64 x.toModel.unpack y.toModel.unpack)).unpack a
  rw [zero]
  exact shows_add_zero holds t

end Zero

/-! ## Truncation -/

section Truncation

variable {x : Float} {a : ℚ}

theorem roundToInt_eq (m : Nat) (e : Int) : roundToInt .positive m e = ⌊scaled m e⌋₊ := by
  simp only [roundToInt, decreaseExponent, shiftToExponent, mantissa_shiftRight,
    mantissa_ofMantissaAndAccuracy, Nat.shiftLeft_eq]
  generalize up : (e - 0).toNat = s
  generalize down : (0 - (e - s)).toNat = t
  have value : scaled m e = ((m * 2 ^ s : Nat) : ℚ) / (2 ^ t : Nat) := by
    have place : e = (s : Int) - t := by omega
    rw [place, scaled, zpow_sub₀ two_ne_zero, zpow_natCast, zpow_natCast]
    push_cast
    ring
  rw [value, Nat.floor_div_eq_div]
  rfl

theorem shows_toInt {u : UnpackedFloat} (shown : Shows u a) (small : a < 2 ^ 1024) (low high : Int) :
    u.toInt low high = ⌊a⌋₊ := by
  cases shown with
  | zero s => exact congrArg Nat.cast Nat.floor_zero.symm
  | finite canonical => exact roundToInt_eq _ _
  | infinity large => exact absurd small (not_lt.mpr large)

/-- A number is truncated to the natural number below its value. -/
theorem Holds.toNat_toUInt64 (holds : Holds x a) (small : a < 2 ^ 64) :
    x.toUInt64.toNat = ⌊a⌋₊ := by
  have finite : (2 : ℚ) ^ 64 < 2 ^ 1024 := pow_lt_pow_right₀ one_lt_two (by decide)
  have whole := shows_toInt holds (small.trans finite) 0 (UInt64.size - 1)
  have word : ⌊a⌋₊ < UInt64.size := (Nat.floor_lt holds.nonneg).mpr (by exact_mod_cast small)
  show (UInt64.ofNatClamp (x.toModel.unpack.toInt 0 (UInt64.size - 1)).toNat).toNat = _
  rw [whole, Int.toNat_natCast, UInt64.ofNatClamp, dif_pos word]
  exact UInt64.toNat_ofNatLT

end Truncation

end LoanGateway.Floating
