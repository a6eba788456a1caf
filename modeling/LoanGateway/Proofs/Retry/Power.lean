import LoanGateway.Proofs.Floating.Arithmetic
import LoanGateway.Retry.Policy

/-!
# Powers by repeated squaring

Each of the products is rounded. A power of a natural number is exact as long as it has 53 digits or less,
no smaller than that otherwise, and it is off by a small share of it unless it is infinite. Whether it is
infinite is known from the exact power but for a narrow margin.

- `Agrees`: a value that is a natural number if this has 53 digits or less.
- `Estimates`: what a rounded power of a natural number is.
- `margin`: how far a power that is not infinite may be off.
- `powerBySquaring_induction`: what products preserve holds of the power.
- `exists_holds_power`: powers with an exponent that is not negative.
- `exists_holds_power_neg`: powers with a negative exponent.
-/

namespace LoanGateway.Retry

open LoanGateway.Floating

/-! ## Rounded products of natural numbers -/

/-- A value is a natural number if this has 53 digits or less. Otherwise the value is no smaller than the
least number with more digits. -/
structure Agrees (r : ℚ) (n : Nat) : Prop where
  exact : n < 2 ^ 53 → r = n
  large : 2 ^ 53 ≤ n → 2 ^ 53 ≤ r

namespace Agrees

variable {a b r : ℚ} {m n : Nat}

theorem refl (n : Nat) : Agrees n n := ⟨fun _ => rfl, fun large => by exact_mod_cast large⟩

theorem eq_zero (agrees : Agrees r 0) : r = 0 := by simpa using agrees.exact (by decide)

theorem one_le (agrees : Agrees r n) (pos : 0 < n) : 1 ≤ r := by
  by_cases small : n < 2 ^ 53
  · rw [agrees.exact small]
    exact_mod_cast pos
  · exact le_trans (by norm_num) (agrees.large (not_lt.mp small))

/-- The rounded product agrees with the product. -/
theorem mul (left : Agrees a m) (right : Agrees b n) (near : Near (a * b) r) : Agrees r (m * n) := by
  -- A product with zero is exact, whatever the other factor is: it may be too large to be known.
  have zero (product : a * b = 0) : Agrees r 0 := by
    rw [product] at near
    have kept := near.eq_of_onGrid (onGrid_natCast (n := 0) (by decide))
    exact kept ▸ .refl 0
  have beyond (product : 2 ^ 53 ≤ m * n) (value : 2 ^ 53 ≤ a * b) : Agrees r (m * n) :=
    ⟨fun small => absurd small (not_lt.mpr product), fun _ => near.ge (onGrid_two_pow 53) value⟩
  rcases m.eq_zero_or_pos with rfl | mPos
  · rw [Nat.zero_mul]
    exact zero (by rw [left.eq_zero, zero_mul])
  rcases n.eq_zero_or_pos with rfl | nPos
  · rw [Nat.mul_zero]
    exact zero (by rw [right.eq_zero, mul_zero])
  have aOne := left.one_le mPos
  have bOne := right.one_le nPos
  rcases lt_or_ge m (2 ^ 53) with mSmall | mLarge
  · rcases lt_or_ge n (2 ^ 53) with nSmall | nLarge
    · rw [left.exact mSmall, right.exact nSmall, ← Nat.cast_mul] at near beyond
      rcases lt_or_ge (m * n) (2 ^ 53) with small | large
      · rw [near.eq_of_onGrid (onGrid_natCast small)]
        exact .refl _
      · exact beyond large (by exact_mod_cast large)
    · exact beyond (nLarge.trans (Nat.le_mul_of_pos_left n mPos))
        ((right.large nLarge).trans (le_mul_of_one_le_left (by linarith) aOne))
  · exact beyond (mLarge.trans (Nat.le_mul_of_pos_right m nPos))
      ((left.large mLarge).trans (le_mul_of_one_le_right (by linarith) bOne))

end Agrees

/-! ## Rounded powers -/

/-- What a rounded power of a natural number is. Each of the products after the first factor may be off
by a small share. -/
structure Estimates (m i : Nat) (r : ℚ) : Prop where
  agrees : Agrees r (m ^ i)
  double : 2 ≤ m → 2 ^ i ≤ r
  upper : r ≤ m ^ i * (1 + epsilon) ^ (i - 1)
  lower : m ^ i ≤ r * (1 + epsilon) ^ (i - 1)

namespace Estimates

variable {m i j : Nat} {a b r : ℚ}

theorem zero (m : Nat) : Estimates m 0 1 where
  agrees := by simpa using Agrees.refl 1
  double _ := by simp
  upper := by simp
  lower := by simp

theorem one (m : Nat) : Estimates m 1 m where
  agrees := by simpa using Agrees.refl m
  double two := by simpa using (by exact_mod_cast two)
  upper := by simp
  lower := by simp

theorem eq_one (estimates : Estimates m 0 r) : r = 1 := by
  simpa using estimates.agrees.exact (by simp)

theorem one_le (estimates : Estimates m i r) (pos : 0 < m) : 1 ≤ r :=
  estimates.agrees.one_le (Nat.pow_pos pos)

theorem mul (left : Estimates m i a) (right : Estimates m j b) (near : Near (a * b) r) (pos : 0 < m)
    (iPos : 0 < i) (jPos : 0 < j) : Estimates m (i + j) r := by
  have aOne := left.one_le pos
  have bOne := right.one_le pos
  have share := near.share (one_le_mul_of_one_le_of_one_le aOne bOne)
  have positive : 0 < 1 + epsilon := by
    unfold epsilon
    norm_num
  have exponent : i + j - 1 = (i - 1) + (j - 1) + 1 := by omega
  constructor
  · rw [Nat.pow_add]
    exact left.agrees.mul right.agrees near
  · intro two
    have product := mul_le_mul (left.double two) (right.double two) (by positivity) (by linarith)
    rw [← pow_add] at product
    exact near.ge (onGrid_two_pow _) product
  · calc r ≤ a * b * (1 + epsilon) := share.1
      _ ≤ (m ^ i * (1 + epsilon) ^ (i - 1)) * (m ^ j * (1 + epsilon) ^ (j - 1)) * (1 + epsilon) := by
        gcongr
        · exact left.upper
        · exact right.upper
      _ = m ^ (i + j) * (1 + epsilon) ^ (i + j - 1) := by
        rw [exponent]
        ring
  · calc (m : ℚ) ^ (i + j) = m ^ i * m ^ j := pow_add ..
      _ ≤ (a * (1 + epsilon) ^ (i - 1)) * (b * (1 + epsilon) ^ (j - 1)) := by
        gcongr
        · exact left.lower
        · exact right.lower
      _ = a * b * (1 + epsilon) ^ ((i - 1) + (j - 1)) := by ring
      _ ≤ r * (1 + epsilon) * (1 + epsilon) ^ ((i - 1) + (j - 1)) :=
        mul_le_mul_of_nonneg_right share.2 (by positivity)
      _ = r * (1 + epsilon) ^ (i + j - 1) := by
        rw [exponent]
        ring

end Estimates

/-! ## Infinite powers -/

/-- After a thousand roundings a value is at least this share of the exact one, and the exact one at least
this share of it. -/
def margin : ℚ := 1 - 1 / 2 ^ 42

theorem margin_pos : 0 < margin := by
  unfold margin
  norm_num

theorem margin_le_one : margin ≤ 1 := by
  unfold margin
  norm_num

theorem share_mul_margin_le {n : Nat} (few : n ≤ 1024) : (1 + epsilon) ^ n * margin ≤ 1 := by
  have least : margin ≤ (1 - epsilon) ^ n := calc
    margin ≤ 1 + n * -epsilon := by
      have : (n : ℚ) ≤ 1024 := by exact_mod_cast few
      unfold margin epsilon
      linarith
    _ ≤ (1 + -epsilon) ^ n := one_add_mul_le_pow (by unfold epsilon; norm_num) n
    _ = (1 - epsilon) ^ n := by rw [sub_eq_add_neg]
  calc (1 + epsilon) ^ n * margin ≤ (1 + epsilon) ^ n * (1 - epsilon) ^ n :=
        mul_le_mul_of_nonneg_left least (by unfold epsilon; positivity)
    _ = (1 - epsilon ^ 2) ^ n := by
      rw [← mul_pow]
      ring
    _ ≤ 1 := pow_le_one₀ (by unfold epsilon; norm_num) (by unfold epsilon; norm_num)

namespace Estimates

variable {m i : Nat} {r : ℚ}

theorem two_le (estimates : Estimates m i r) (pos : 0 < m) (more : 1 < r) : 2 ≤ m := by
  by_contra one
  obtain rfl : m = 1 := by omega
  have same := estimates.agrees.exact (by simp)
  rw [Nat.one_pow, Nat.cast_one] at same
  exact more.ne' same

/-- The exact power of an infinite one reaches the largest number, up to the margin. -/
theorem le_of_overflow (estimates : Estimates m i r) (pos : 0 < m) (overflow : 2 ^ 1024 ≤ r) :
    2 ^ 1024 * margin ≤ m ^ i := by
  rcases le_or_gt i 1024 with few | many
  · calc 2 ^ 1024 * margin ≤ r * margin := mul_le_mul_of_nonneg_right overflow margin_pos.le
      _ ≤ m ^ i * (1 + epsilon) ^ (i - 1) * margin :=
        mul_le_mul_of_nonneg_right estimates.upper margin_pos.le
      _ = m ^ i * ((1 + epsilon) ^ (i - 1) * margin) := mul_assoc ..
      _ ≤ m ^ i := mul_le_of_le_one_right (by positivity) (share_mul_margin_le (by omega))
  · have two : (2 : ℚ) ≤ m := by
      exact_mod_cast estimates.two_le pos ((one_lt_pow₀ one_lt_two (by decide)).trans_le overflow)
    calc 2 ^ 1024 * margin ≤ 2 ^ 1024 := mul_le_of_le_one_right (by positivity) margin_le_one
      _ ≤ 2 ^ i := pow_le_pow_right₀ one_le_two many.le
      _ ≤ m ^ i := pow_le_pow_left₀ (by norm_num) two i

/-- A power whose exact value exceeds the largest number by the margin is infinite. -/
theorem overflow_of_le (estimates : Estimates m i r) (pos : 0 < m) (large : 2 ^ 1024 ≤ m ^ i * margin) :
    2 ^ 1024 ≤ r := by
  have nonneg : 0 ≤ r := zero_le_one.trans (estimates.one_le pos)
  rcases le_or_gt i 1024 with few | many
  · calc 2 ^ 1024 ≤ m ^ i * margin := large
      _ ≤ r * (1 + epsilon) ^ (i - 1) * margin :=
        mul_le_mul_of_nonneg_right estimates.lower margin_pos.le
      _ = r * ((1 + epsilon) ^ (i - 1) * margin) := mul_assoc ..
      _ ≤ r := mul_le_of_le_one_right nonneg (share_mul_margin_le (by omega))
  · have two : 2 ≤ m := by
      by_contra one
      obtain rfl : m = 1 := by omega
      rw [Nat.cast_one, one_pow, one_mul] at large
      exact absurd (large.trans margin_le_one) (not_le.mpr (one_lt_pow₀ one_lt_two (by decide)))
    exact (pow_le_pow_right₀ one_le_two many.le).trans (estimates.double two)

end Estimates

/-! ## Squaring -/

namespace Policy

/-- What holds of a base and of the factors taken so far, and is preserved by products, holds of the
power. -/
theorem powerBySquaring_induction {R : Nat → Float → Prop}
    (mul : ∀ {i j x y}, R i x → 0 < j → R j y → R (i + j) (x * y)) {fuel n : Nat}
    (enough : n < 2 ^ fuel) {i j : Nat} {x acc : Float} (pos : 0 < i) (base : R i x) (taken : R j acc) :
    R (j + n * i) (powerBySquaring fuel x n acc) := by
  induction fuel generalizing n i j x acc with
  | zero =>
    obtain rfl : n = 0 := by omega
    simpa [powerBySquaring] using taken
  | succ fuel ih =>
    unfold powerBySquaring
    dsimp only
    have factor : R (j + n % 2 * i) (if n % 2 = 1 then acc * x else acc) := by
      split
      case isTrue odd =>
        rw [odd, Nat.one_mul]
        exact mul taken pos base
      case isFalse even =>
        rw [Nat.mod_two_not_eq_one.mp even, Nat.zero_mul]
        exact taken
    split
    case isTrue last =>
      have digit : j + n * i = j + n % 2 * i := by rw [Nat.mod_eq_of_lt (by omega)]
      rw [digit]
      exact factor
    case isFalse more =>
      have rest := ih (n := n / 2) (by omega) (Nat.add_pos_left pos i) (mul base pos base) factor
      have exponent : j + n % 2 * i + n / 2 * (i + i) = j + n * i := by
        calc j + n % 2 * i + n / 2 * (i + i) = j + (2 * (n / 2) + n % 2) * i := by ring
          _ = j + n * i := by rw [Nat.div_add_mod]
      rwa [exponent] at rest

variable {x : Float} {m n : Nat}

theorem exists_holds_powerBySquaring (holds : Holds x m) (pos : 0 < m) (enough : n < 2 ^ 32) :
    ∃ r, Holds (powerBySquaring 32 x n 1) r ∧ Estimates m n r := by
  have mul {i j : Nat} {y z : Float} (left : ∃ r, Holds y r ∧ Estimates m i r) (jPos : 0 < j)
      (right : ∃ r, Holds z r ∧ Estimates m j r) :
      ∃ r, Holds (y * z) r ∧ Estimates m (i + j) r := by
    obtain ⟨a, aHolds, aEstimates⟩ := left
    obtain ⟨b, bHolds, bEstimates⟩ := right
    rcases i.eq_zero_or_pos with rfl | iPos
    · -- The first factor that is taken is multiplied by one, which is exact.
      obtain rfl := aEstimates.eq_one
      exact ⟨b, holds_one_mul aHolds bHolds, (Nat.zero_add j).symm ▸ bEstimates⟩
    · obtain ⟨r, product, near⟩ := exists_holds_mul aHolds bHolds
        (fun _ => bEstimates.one_le pos) (fun _ => aEstimates.one_le pos)
      exact ⟨r, product, aEstimates.mul bEstimates near pos iPos jPos⟩
  have power := powerBySquaring_induction (R := fun i y => ∃ r, Holds y r ∧ Estimates m i r) mul
    enough Nat.one_pos ⟨m, holds, .one m⟩ ⟨1, holds_one, .zero m⟩
  simpa using power

/-- A power with an exponent that is not negative. -/
theorem exists_holds_power (holds : Holds x m) (pos : 0 < m) (enough : n < 2 ^ 32) :
    ∃ r, Holds (power x n) r ∧ Estimates m n r := by
  have positive : ¬ (n : Int) < 0 := by omega
  rw [power, if_neg positive, Int.natAbs_natCast]
  exact exists_holds_powerBySquaring holds pos enough

theorem power_neg (negative : 0 < n) : power x (-n) = 1 / powerBySquaring 32 x n 1 := by
  have sign : -(n : Int) < 0 := by omega
  rw [power, if_pos sign, Int.natAbs_neg, Int.natAbs_natCast]

/-- A power of one is one, also with a negative exponent. -/
theorem holds_one_power_neg (holds : Holds x 1) (enough : n < 2 ^ 32) (negative : 0 < n) :
    Holds (power x (-n)) 1 := by
  obtain ⟨p, power, estimates⟩ := exists_holds_powerBySquaring (m := 1) (mod_cast holds) one_pos enough
  obtain rfl : p = 1 := by simpa using estimates.agrees.exact (by simp)
  rw [power_neg negative]
  have finite := power.isFinite (one_lt_pow₀ one_lt_two (by decide))
  obtain ⟨r, inverse, near⟩ := exists_holds_div holds_one power rfl finite one_ne_zero
  rw [div_one] at near
  rwa [near.eq_of_onGrid (onGrid_natCast (n := 1) (by decide))] at inverse

/-- A power of a larger base with a negative exponent is small. -/
theorem exists_holds_power_neg (holds : Holds x m) (two : 2 ≤ m) (enough : n < 2 ^ 32)
    (negative : 2 ≤ n) : ∃ r, Holds (power x (-n)) r ∧ r ≤ 1 / 4 := by
  obtain ⟨p, power, estimates⟩ := exists_holds_powerBySquaring holds (by omega) enough
  have four : 4 ≤ p := calc
    (4 : ℚ) = 2 ^ 2 := by norm_num
    _ ≤ 2 ^ n := pow_le_pow_right₀ one_le_two negative
    _ ≤ p := estimates.double two
  rw [power_neg (by omega)]
  -- The inverse of an infinite power is zero.
  rcases power.isFinite_or_isInf with finite | infinite
  · obtain ⟨r, inverse, near⟩ := exists_holds_div holds_one power rfl finite (by linarith)
    have quarter : 1 / p ≤ 1 / 4 := one_div_le_one_div_of_le (by norm_num) four
    exact ⟨r, inverse, near.le (mod_cast onGrid_quarter (n := 1) (by decide)) quarter⟩
  · exact ⟨0, holds_div_infinite rfl infinite, by norm_num⟩

end Policy

end LoanGateway.Retry
