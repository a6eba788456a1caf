import Mathlib.Algebra.Order.Archimedean.Basic
import Mathlib.Algebra.Order.Field.Power
import Mathlib.Algebra.Order.Floor.Semiring
import Mathlib.Data.Rat.Floor
import Mathlib.Tactic.Linarith
import Mathlib.Tactic.Positivity
import Mathlib.Tactic.Ring

/-!
# The grid of binary numbers

Numbers with at most 53 binary digits and no digit below the last place are kept by floating-point
arithmetic. Rounding moves a number to one beside it and never across another one.

- `scaled`: the number of a mantissa and an exponent.
- `OnGrid`: the numbers that are kept. There is no largest one.
- `Near`: no number of the grid lies between two numbers.
- `Near.eq_of_onGrid`: rounding keeps the numbers of the grid.
- `OnGrid.exists_eq_scaled`: which numbers of the grid have no digit below a place.
- `Near.share`: rounding changes a number by a small share of it.
-/

namespace LoanGateway.Floating

/-- The number `m * 2 ^ e`. -/
def scaled (m : Nat) (e : Int) : ℚ := m * 2 ^ e

theorem scaled_nonneg (m : Nat) (e : Int) : 0 ≤ scaled m e := by
  unfold scaled
  positivity

theorem scaled_pos {m : Nat} (pos : 0 < m) (e : Int) : 0 < scaled m e := by
  unfold scaled
  positivity

@[simp] theorem scaled_zero (e : Int) : scaled 0 e = 0 := by simp [scaled]

@[simp] theorem scaled_exponent_zero (m : Nat) : scaled m 0 = m := by simp [scaled]

/-- A power of two may stand in the mantissa or in the exponent. -/
theorem scaled_mul_two_pow (m s : Nat) (e : Int) : scaled (m * 2 ^ s) e = scaled m (e + s) := by
  unfold scaled
  rw [zpow_add₀ two_ne_zero, zpow_natCast]
  push_cast
  ring

theorem scaled_two_pow (n : Nat) (e : Int) : scaled (2 ^ n) e = 2 ^ (e + n) := by
  rw [← Nat.one_mul (2 ^ n), scaled_mul_two_pow, scaled, Nat.cast_one, one_mul]

theorem scaled_mul_scaled (m n : Nat) (e f : Int) :
    scaled m e * scaled n f = scaled (m * n) (e + f) := by
  unfold scaled
  rw [zpow_add₀ two_ne_zero]
  push_cast
  ring

theorem scaled_le_scaled_iff {m n : Nat} {e : Int} : scaled m e ≤ scaled n e ↔ m ≤ n := by
  have positive : (0 : ℚ) < 2 ^ e := by positivity
  unfold scaled
  rw [mul_le_mul_iff_left₀ positive, Nat.cast_le]

theorem scaled_lt_scaled_iff {m n : Nat} {e : Int} : scaled m e < scaled n e ↔ m < n := by
  rw [← not_le, scaled_le_scaled_iff, not_le]

/-- The grid of the numbers that are kept. -/
def OnGrid (c : ℚ) : Prop := ∃ (m : Nat) (e : Int), m < 2 ^ 53 ∧ -1074 ≤ e ∧ c = scaled m e

theorem onGrid_scaled {m : Nat} {e : Int} (small : m ≤ 2 ^ 53) (least : -1074 ≤ e) :
    OnGrid (scaled m e) := by
  rcases small.lt_or_eq with below | rfl
  · exact ⟨m, e, below, least, rfl⟩
  · exact ⟨2 ^ 52, e + 1, by decide, by omega, scaled_mul_two_pow (2 ^ 52) 1 e⟩

theorem onGrid_natCast {n : Nat} (small : n < 2 ^ 53) : OnGrid n :=
  ⟨n, 0, small, by decide, (scaled_exponent_zero n).symm⟩

theorem onGrid_two_pow (n : Nat) : OnGrid (2 ^ n) :=
  ⟨1, n, by decide, by omega, by simp [scaled]⟩

theorem onGrid_quarter {n : Nat} (small : n < 2 ^ 53) : OnGrid (n / 4) :=
  ⟨n, -2, small, by decide, by rw [scaled]; norm_num; ring⟩

/-- No number of the grid lies between two numbers. -/
structure Near (v r : ℚ) : Prop where
  le : ∀ {c}, OnGrid c → v ≤ c → r ≤ c
  ge : ∀ {c}, OnGrid c → c ≤ v → c ≤ r

theorem Near.refl (v : ℚ) : Near v v := ⟨fun _ h => h, fun _ h => h⟩

/-- Only a number of the grid itself is near to it. -/
theorem Near.eq_of_onGrid {v r : ℚ} (near : Near v r) (kept : OnGrid v) : r = v :=
  le_antisymm (near.le kept le_rfl) (near.ge kept le_rfl)

/-! ## Places -/

/-- A number of the grid that is not below the lowest number with 53 digits at a place has no digit below
this place. -/
theorem OnGrid.exists_eq_scaled {c : ℚ} (kept : OnGrid c) {place : Int}
    (large : scaled (2 ^ 52) place ≤ c ∨ place = -1074) :
    ∃ n, c = scaled n place := by
  obtain ⟨m, e, small, least, rfl⟩ := kept
  have above : place ≤ e := by
    rcases large with large | rfl
    · by_contra below
      have step : scaled m e < scaled (2 ^ 52) place := calc
        scaled m e < scaled (2 ^ 53) e := scaled_lt_scaled_iff.mpr small
        _ = 2 ^ (e + 53) := scaled_two_pow 53 e
        _ ≤ 2 ^ (place + 52) := zpow_le_zpow_right₀ one_le_two (by omega)
        _ = scaled (2 ^ 52) place := (scaled_two_pow 52 place).symm
      exact absurd large (not_le.mpr step)
    · exact least
  refine ⟨m * 2 ^ (e - place).toNat, ?_⟩
  rw [scaled_mul_two_pow]
  congr 1
  omega

/-! ## Neighbours -/

/-- The share of a number that rounding changes at most. -/
def epsilon : ℚ := 1 / 2 ^ 52

theorem exists_scaled_le {v : ℚ} (nonneg : 0 ≤ v) (e : Int) :
    ∃ n, scaled n e ≤ v ∧ v < scaled (n + 1) e := by
  have place : (0 : ℚ) < 2 ^ e := by positivity
  refine ⟨⌊v / 2 ^ e⌋₊, ?_, ?_⟩
  · exact (le_div_iff₀ place).mp (Nat.floor_le (by positivity))
  · have above := (div_lt_iff₀ place).mp (Nat.lt_floor_add_one (v / 2 ^ e))
    rwa [scaled, Nat.cast_succ]

/-- The neighbours of a number on the grid differ by a small share of it. -/
theorem exists_neighbours {v : ℚ} (one : 1 ≤ v) :
    ∃ c d, OnGrid c ∧ OnGrid d ∧ c ≤ v ∧ v ≤ d ∧ d ≤ c * (1 + epsilon) := by
  obtain ⟨k, lower, upper⟩ := exists_nat_pow_near one one_lt_two
  obtain ⟨n, below, above⟩ := exists_scaled_le (zero_le_one.trans one) (k - 52)
  have full : 2 ^ 52 ≤ n := by
    have lowest : scaled (2 ^ 52) (k - 52) = 2 ^ k := by
      rw [scaled_two_pow, ← zpow_natCast]
      congr 1
      omega
    exact Nat.lt_succ_iff.mp (scaled_lt_scaled_iff.mp (lowest ▸ lower.trans_lt above))
  have small : n < 2 ^ 53 := by
    have next : scaled (2 ^ 53) (k - 52) = 2 ^ (k + 1) := by
      rw [scaled_two_pow, ← zpow_natCast]
      congr 1
      omega
    exact scaled_lt_scaled_iff.mp (next ▸ below.trans_lt upper)
  refine ⟨_, _, onGrid_scaled small.le (by omega), onGrid_scaled small (by omega), below, above.le, ?_⟩
  have digit : (1 : ℚ) ≤ n * epsilon := by
    have digits : (2 ^ 52 : ℚ) ≤ n := by exact_mod_cast full
    rw [epsilon]
    linarith
  have place : (0 : ℚ) ≤ 2 ^ ((k : Int) - 52) := by positivity
  calc scaled (n + 1) (k - 52) = (n + 1) * 2 ^ ((k : Int) - 52) := by rw [scaled, Nat.cast_succ]
    _ ≤ (n + n * epsilon) * 2 ^ ((k : Int) - 52) := mul_le_mul_of_nonneg_right (by linarith) place
    _ = scaled n (k - 52) * (1 + epsilon) := by rw [scaled]; ring

/-- Rounding changes a number by a small share of it. -/
theorem Near.share {v r : ℚ} (near : Near v r) (one : 1 ≤ v) :
    r ≤ v * (1 + epsilon) ∧ v ≤ r * (1 + epsilon) := by
  obtain ⟨c, d, cGrid, dGrid, below, above, close⟩ := exists_neighbours one
  have pos : (0 : ℚ) ≤ 1 + epsilon := by
    unfold epsilon
    norm_num
  constructor
  · exact (near.le dGrid above).trans (close.trans (mul_le_mul_of_nonneg_right below pos))
  · exact above.trans (close.trans (mul_le_mul_of_nonneg_right (near.ge cGrid below) pos))

end LoanGateway.Floating
