import LoanGateway.Proofs.Floating.Grid
import Mathlib

/-!
# Rounding

Digits below the last place are dropped, and what was dropped decides whether the last digit goes up by
one. The exact number may go on below its mantissa, as a quotient does. Whichever way the last digit is
rounded, no number of the grid lies between the exact number and the rounded one.

- `Within`: an exact number, and the mantissa it is cut off to.
- `kept`: the mantissa that is left when digits were dropped.
- `lastPlace`, `dropped`: the place of the last digit that is left, and how many digits are below it.
- `near_rounded`: rounding leads to a number near the exact one.
-/

namespace LoanGateway.Floating

open Float.Model (Format totalExponent)
open Float.Model.UnpackedFloat

/-! ## Dropping digits -/

theorem mantissa_shiftRight (em : ExtendedMantissa) (s : Nat) :
    (em >>> s).mantissa = em.mantissa / 2 ^ s := by
  induction s with
  | zero => exact (Nat.div_one _).symm
  | succ s ih =>
    show (em >>> s).mantissa / 2 = _
    rw [ih, Nat.div_div_eq_div_mul, Nat.pow_succ]

theorem mantissa_ofMantissaAndAccuracy (m : Nat) (acc : Accuracy) :
    (ExtendedMantissa.ofMantissaAndAccuracy m acc).mantissa = m := by
  cases acc with
  | exact => rfl
  | inexact beyond => cases beyond <;> rfl

/-- Rounding goes up by one at most. -/
theorem roundedMantissa_bounds (em : ExtendedMantissa) :
    em.mantissa ≤ em.roundedMantissa ∧ em.roundedMantissa ≤ em.mantissa + 1 := by
  unfold ExtendedMantissa.roundedMantissa
  cases em.accuracy with
  | exact => exact ⟨Nat.le_refl _, Nat.le_succ _⟩
  | inexact beyond => cases beyond <;> simp only [Accuracy.roundToNearestEven] <;> omega

/-- Dropping zeros loses nothing. -/
theorem shiftRight_zeros (m s : Nat) :
    ExtendedMantissa.ofMantissaAndAccuracy (m * 2 ^ s) .exact >>> s =
      ExtendedMantissa.ofMantissaAndAccuracy m .exact := by
  induction s generalizing m with
  | zero => exact congrArg (ExtendedMantissa.ofMantissaAndAccuracy · .exact) (Nat.mul_one m)
  | succ s ih =>
    show (ExtendedMantissa.ofMantissaAndAccuracy (m * 2 ^ (s + 1)) .exact >>> s).shiftRightOne = _
    have zeros : m * 2 ^ (s + 1) = m * 2 * 2 ^ s := by ring
    rw [zeros, ih]
    simp [ExtendedMantissa.shiftRightOne, ExtendedMantissa.ofMantissaAndAccuracy]

/-- The number has this mantissa at this exponent, and goes beyond it unless that is accurate. -/
def Within (acc : Accuracy) (m : Nat) (e : Int) (v : ℚ) : Prop :=
  match acc with
  | .exact => v = scaled m e
  | .inexact _ => scaled m e < v ∧ v < scaled (m + 1) e

theorem Within.ge {acc : Accuracy} {m : Nat} {e : Int} {v : ℚ} (within : Within acc m e v) :
    scaled m e ≤ v := by
  cases acc with
  | exact => exact le_of_eq within.symm
  | inexact beyond => exact within.1.le

section Dropping

variable {acc : Accuracy} {m s n : Nat} {e : Int} {v : ℚ}

/-- The mantissa that is left when digits were dropped. -/
def kept (m : Nat) (acc : Accuracy) (s : Nat) : Nat :=
  (ExtendedMantissa.ofMantissaAndAccuracy m acc >>> s).roundedMantissa

theorem kept_bounds (m : Nat) (acc : Accuracy) (s : Nat) :
    m / 2 ^ s ≤ kept m acc s ∧ kept m acc s ≤ m / 2 ^ s + 1 := by
  have bounds := roundedMantissa_bounds (ExtendedMantissa.ofMantissaAndAccuracy m acc >>> s)
  rwa [mantissa_shiftRight, mantissa_ofMantissaAndAccuracy] at bounds

theorem kept_le_of_lt (below : m < n * 2 ^ s) : kept m acc s ≤ n := by
  have quotient : m / 2 ^ s < n := (Nat.div_lt_iff_lt_mul (by positivity)).mpr below
  have upper := (kept_bounds m acc s).2
  omega

/-- What is not above a multiple of the last place that is left is not rounded above it. -/
theorem kept_le (within : Within acc m e v) (bound : v ≤ scaled (n * 2 ^ s) e) :
    kept m acc s ≤ n := by
  cases acc with
  | exact =>
    have small : m ≤ n * 2 ^ s := scaled_le_scaled_iff.mp (within ▸ bound)
    rcases small.lt_or_eq with below | rfl
    · exact kept_le_of_lt below
    · rw [kept, shiftRight_zeros]
      exact le_rfl
  | inexact beyond => exact kept_le_of_lt (scaled_lt_scaled_iff.mp (within.1.trans_le bound))

/-- What is not below a multiple of the last place that is left is not rounded below it. -/
theorem le_kept (within : Within acc m e v) (bound : scaled (n * 2 ^ s) e ≤ v) :
    n ≤ kept m acc s := by
  have large : n * 2 ^ s ≤ m := by
    cases acc with
    | exact => exact scaled_le_scaled_iff.mp (within ▸ bound)
    | inexact beyond =>
      exact Nat.le_of_lt_succ (scaled_lt_scaled_iff.mp (bound.trans_lt within.2))
  have quotient : n ≤ m / 2 ^ s := (Nat.le_div_iff_mul_le (by positivity)).mpr large
  exact quotient.trans (kept_bounds m acc s).1

end Dropping

/-! ## The last place -/

/-- The exponent of the last digit that is left of a number. -/
def lastPlace (m : Nat) (e : Int) : Int := max (m.log2 + e - 52) (-1074)

theorem targetExponent_eq (m : Nat) (e : Int) :
    Format.binary64.targetExponent (totalExponent m e) = lastPlace m e := by
  simp only [Format.targetExponent, totalExponent, Format.mantissaBits, Format.minExponent, lastPlace]
  omega

/-- A number whose digits do not end above its last place: it has 53 of them, or they reach down to the
last place of all. -/
theorem le_lastPlace {m : Nat} {e : Int} (full : 2 ^ 52 ≤ m ∨ e ≤ -1074) : e ≤ lastPlace m e := by
  unfold lastPlace
  rcases full with full | low
  · have nonzero : m ≠ 0 := Nat.pos_iff_ne_zero.mp (Nat.lt_of_lt_of_le (by decide) full)
    have digits := (Nat.le_log2 nonzero).mpr full
    omega
  · omega

/-- The digits of a number and the zeros that are added behind them. -/
theorem two_pow_le_mul {m s n : Nat} (pos : 0 < m) (digits : n ≤ m.log2 + s) : 2 ^ n ≤ m * 2 ^ s := calc
  2 ^ n ≤ 2 ^ (m.log2 + s) := Nat.pow_le_pow_right (by decide) digits
  _ = 2 ^ m.log2 * 2 ^ s := Nat.pow_add ..
  _ ≤ m * 2 ^ s := Nat.mul_le_mul_right _ (Nat.log2_self_le pos.ne')

/-- How many digits are dropped. -/
def dropped (m : Nat) (e : Int) : Nat := (lastPlace m e - e).toNat

theorem shiftToTargetExponent_eq (m : Nat) (e : Int) (acc : Accuracy) :
    shiftToTargetExponent Format.binary64 m e acc =
      (ExtendedMantissa.ofMantissaAndAccuracy m acc >>> dropped m e, e + dropped m e) := by
  rw [shiftToTargetExponent, targetExponent_eq]
  rfl

variable {acc : Accuracy} {m : Nat} {e : Int} {v : ℚ}

/-- A number with 53 digits or less loses none. -/
theorem dropped_eq_zero (small : m < 2 ^ 53) (least : -1074 ≤ e) : dropped m e = 0 := by
  have digits : m.log2 ≤ 52 := by
    by_cases zero : m = 0
    · rw [zero]
      decide
    · exact Nat.le_of_lt_succ ((Nat.log2_lt zero).mpr small)
  unfold dropped lastPlace
  omega

/-- A carry into a digit more is dropped again. -/
theorem dropped_carry (least : -1074 ≤ e) : dropped (2 ^ 53) e = 1 := by
  rw [dropped, lastPlace, Nat.log2_two_pow]
  omega

theorem lt_of_dropped (m : Nat) (e : Int) : m < 2 ^ 53 * 2 ^ dropped m e := by
  by_cases zero : m = 0
  · rw [zero]
    positivity
  · rw [← Nat.pow_add]
    have digits : m.log2 + 1 ≤ 53 + dropped m e := by
      unfold dropped lastPlace
      omega
    exact (Nat.lt_log2_self).trans_le (Nat.pow_le_pow_right (by decide) digits)

/-- Unless the last place is the last one of all, 53 digits are left. -/
theorem full_or_last (low : e ≤ lastPlace m e) :
    2 ^ 52 * 2 ^ dropped m e ≤ m ∨ lastPlace m e = -1074 := by
  by_cases last : lastPlace m e = -1074
  · exact .inr last
  · left
    have digits : m.log2 = 52 + dropped m e := by
      unfold dropped lastPlace at *
      omega
    have nonzero : m ≠ 0 := by
      rintro rfl
      rw [Nat.log2_zero] at digits
      omega
    rw [← Nat.pow_add, ← digits]
    exact Nat.log2_self_le nonzero

/-! ## The rounded number -/

/-- The mantissa that is left of a number at its last place. -/
def rounded (m : Nat) (e : Int) (acc : Accuracy) : Nat := kept m acc (dropped m e)

theorem rounded_le (m : Nat) (e : Int) (acc : Accuracy) : rounded m e acc ≤ 2 ^ 53 :=
  kept_le_of_lt (lt_of_dropped m e)

theorem rounded_full_or_last (acc : Accuracy) (low : e ≤ lastPlace m e) :
    2 ^ 52 ≤ rounded m e acc ∨ lastPlace m e = -1074 := by
  refine (full_or_last low).imp_left fun full => ?_
  have quotient : 2 ^ 52 ≤ m / 2 ^ dropped m e := (Nat.le_div_iff_mul_le (by positivity)).mpr full
  exact quotient.trans (kept_bounds m acc _).1

theorem scaled_lastPlace (low : e ≤ lastPlace m e) (n : Nat) :
    scaled n (lastPlace m e) = scaled (n * 2 ^ dropped m e) e := by
  rw [scaled_mul_two_pow]
  congr 1
  unfold dropped
  omega

/-- Rounding leads to a number near the exact one. -/
theorem near_rounded (within : Within acc m e v) (low : e ≤ lastPlace m e) :
    Near v (scaled (rounded m e acc) (lastPlace m e)) := by
  have full : scaled (2 ^ 52) (lastPlace m e) ≤ v ∨ lastPlace m e = -1074 := by
    refine (full_or_last low).imp_left fun full => ?_
    rw [scaled_lastPlace low]
    exact (scaled_le_scaled_iff.mpr full).trans within.ge
  constructor
  · intro c grid above
    obtain ⟨n, rfl⟩ := grid.exists_eq_scaled (full.imp_left above.trans')
    rw [scaled_lastPlace low] at above
    exact scaled_le_scaled_iff.mpr (kept_le within above)
  · intro c grid below
    -- A number below the lowest one with 53 digits may have digits below the last place, but the rounded
    -- number has 53 digits.
    by_cases large : scaled (2 ^ 52) (lastPlace m e) ≤ c ∨ lastPlace m e = -1074
    · obtain ⟨n, rfl⟩ := grid.exists_eq_scaled large
      rw [scaled_lastPlace low] at below
      exact scaled_le_scaled_iff.mpr (le_kept within below)
    · rw [not_or, not_le] at large
      have lower := (rounded_full_or_last acc low).resolve_right large.2
      exact large.1.le.trans (scaled_le_scaled_iff.mpr lower)

end LoanGateway.Floating
