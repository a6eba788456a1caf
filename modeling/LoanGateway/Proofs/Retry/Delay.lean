import LoanGateway.Proofs.Retry.Execution
import LoanGateway.Proofs.Retry.Power

/-!
# Delays between attempts

A policy that counts in whole milliseconds and does not vary its delays waits as its parameters say: the
first delay grows by the factor with each attempt, up to the longest delay. There are two exceptions. A
delay of zero becomes the longest one when the power of the factor is infinite, and from the attempt on
whose number does not fit into a signed number, the delays are short again.

- `Policy.IsWhole`: the policies in question.
- `backoff`: the delay that the parameters say.
- `Policy.Overflows`: the power of the factor is infinite.
- `delay_of_holds`: the delay, given the value that is truncated to it.
- `delay_eq_backoff_iff`: the main statement.
-/

namespace LoanGateway.Retry

open LoanGateway.Floating

/-- The delay grows by the factor with each attempt, up to the longest one. -/
def backoff (initial factor longest attempt : Nat) : Duration :=
  .ofMillis (min (initial * factor ^ attempt) longest)

theorem ofMillis_injective : Function.Injective Duration.ofMillis :=
  Function.LeftInverse.injective Duration.millis_ofMillis

theorem backoff_zero {factor longest attempt : Nat} :
    backoff 0 factor longest attempt = .ofMillis 0 := by
  rw [backoff, Nat.zero_mul, Nat.zero_min]

theorem backoff_mono (initial : Nat) {factor : Nat} (pos : 0 < factor) (longest attempt : Nat) :
    (backoff initial factor longest attempt).nanos ≤
      (backoff initial factor longest (attempt + 1)).nanos := by
  have grows : factor ^ attempt ≤ factor ^ (attempt + 1) := Nat.pow_le_pow_right pos (Nat.le_succ attempt)
  exact Nat.mul_le_mul_right _ (min_le_min_right longest (Nat.mul_le_mul_left initial grows))

/-- From the attempt on whose number does not fit into a signed number, the longest delay is reached. -/
theorem backoff_of_ge {initial factor longest attempt : Nat} (pos : 0 < initial) (two : 2 ≤ factor)
    (small : longest < 2 ^ 53) (high : 2 ^ 31 ≤ attempt) :
    backoff initial factor longest attempt = .ofMillis longest := by
  have power : 2 ^ 53 ≤ factor ^ attempt := calc
    2 ^ 53 ≤ 2 ^ attempt := Nat.pow_le_pow_right (by decide) (le_trans (by decide) high)
    _ ≤ factor ^ attempt := Nat.pow_le_pow_left two attempt
  have reached : longest ≤ initial * factor ^ attempt :=
    (small.le.trans power).trans (Nat.le_mul_of_pos_left _ pos)
  rw [backoff, min_eq_right reached]

/-- A number with 53 digits or less is not infinite. -/
theorem lt_overflow {n : Nat} (small : n < 2 ^ 53) : (n : ℚ) < 2 ^ 1024 := calc
  (n : ℚ) < 2 ^ 53 := by exact_mod_cast small
  _ ≤ 2 ^ 1024 := pow_le_pow_right₀ one_le_two (by decide)

theorem Agrees.min_eq {r : ℚ} {n longest : Nat} (agrees : Agrees r n) (small : longest < 2 ^ 53) :
    min r longest = (min n longest : Nat) := by
  rcases lt_or_ge n (2 ^ 53) with exact | large
  · rw [agrees.exact exact, Nat.cast_min]
  · have above : (longest : ℚ) ≤ r := le_trans (by exact_mod_cast small.le) (agrees.large large)
    rw [min_eq_right above, min_eq_right (small.le.trans large)]

namespace Policy

section Comparison

variable {x y : Float} {a b : ℚ}

theorem holds_smaller (left : Holds x a) (right : Holds y b) (small : b < 2 ^ 1024) :
    Holds (smaller x y) (min a b) := by
  unfold smaller
  simp only [left.isNaN_eq_false, right.isNaN_eq_false, Bool.false_eq_true, if_false,
    left.lt_iff right small]
  split
  case isTrue below => rwa [min_eq_left below.le]
  case isFalse above => rwa [min_eq_right (not_lt.mp above)]

theorem larger_zero (holds : Holds x a) : larger x 0 = x := by
  have nonneg : ¬ x < 0 := by
    rw [holds.lt_iff holds_zero (by positivity)]
    exact not_lt.mpr holds.nonneg
  unfold larger
  rw [holds.isNaN_eq_false, holds_zero.isNaN_eq_false, if_neg Bool.false_ne_true,
    if_neg Bool.false_ne_true, if_neg nonneg]

end Comparison

/-! ## Policies that count in whole numbers -/

/-- A policy that counts in whole milliseconds, with a whole factor, and does not vary its delays. -/
structure IsWhole (p : Policy) (initial factor longest : Nat) : Prop where
  initialDelay : p.initialDelay = .ofMillis initial
  maxDelay : p.maxDelay = .ofMillis longest
  initial_lt : initial < 2 ^ 53
  longest_lt : longest < 2 ^ 53
  finite : p.multiplier.isFinite
  multiplier : Holds p.multiplier factor
  factor_pos : 0 < factor
  jitter : IsZero p.jitter

/-- The power of the factor is infinite. -/
def Overflows (p : Policy) (attempt : Nat) : Prop := (power p.multiplier attempt).isInf

variable {p : Policy} {initial factor longest attempt : Nat} {spread : Float}

/-- The number of an attempt is a signed number of 32 bits: it starts anew from below. -/
theorem bmod_of_lt (low : attempt < 2 ^ 31) : Int.bmod attempt 4294967296 = attempt := by
  rw [Int.bmod_eq_of_le] <;> omega

theorem bmod_of_ge (high : 2 ^ 31 ≤ attempt) (word : attempt < 2 ^ 32) :
    Int.bmod attempt 4294967296 = -(2 ^ 32 - attempt : Nat) := by
  rw [Int.bmod_def]
  omega

namespace IsWhole

variable (whole : p.IsWhole initial factor longest)

include whole

theorem cappedDelay_eq (attempt : Nat) :
    p.cappedDelay attempt =
      smaller (Float.ofNat initial * power p.multiplier (Int.bmod attempt 4294967296))
        (Float.ofNat longest) := by
  rw [Policy.cappedDelay, whole.initialDelay, whole.maxDelay, Duration.millis_ofMillis,
    Duration.millis_ofMillis]

/-- The delay is what the capped delay is truncated to. -/
theorem delay_of_holds {v : ℚ} (capped : Holds (p.cappedDelay attempt) v) (small : v ≤ longest)
    (finite : spread.isFinite) : p.delay spread attempt = .ofMillis ⌊v⌋₊ := by
  have cappedFinite := capped.isFinite (small.trans_lt (lt_overflow whole.longest_lt))
  have varied := capped.add_isZero (isZero_mul finite (isZero_mul cappedFinite whole.jitter))
  have word : v < 2 ^ 64 := calc
    v ≤ longest := small
    _ < 2 ^ 64 := by exact_mod_cast whole.longest_lt.trans (by decide)
  rw [delay, larger_zero varied, varied.toNat_toUInt64 word]

/-- The delay, if the power of the factor stands for some value. -/
theorem exists_holds_cappedDelay {r : ℚ}
    (power : Holds (power p.multiplier (Int.bmod attempt 4294967296)) r)
    (regular : 2 ^ 1024 ≤ r → 0 < initial) :
    ∃ v, Holds (p.cappedDelay attempt) (min v longest) ∧ Near (initial * r) v := by
  have initialHolds := holds_ofNat whole.initial_lt
  obtain ⟨v, grown, near⟩ := exists_holds_mul initialHolds power
    (fun infinite => absurd (initialHolds.isInf_iff.mp infinite) (not_le.mpr (lt_overflow whole.initial_lt)))
    (fun infinite => by exact_mod_cast regular (power.isInf_iff.mp infinite))
  refine ⟨v, ?_, near⟩
  rw [whole.cappedDelay_eq]
  exact holds_smaller grown (holds_ofNat whole.longest_lt) (lt_overflow whole.longest_lt)

/-- The capped delay is a natural number as long as the power is estimated. -/
theorem delay_of_near {v r : ℚ} {n : Nat} (capped : Holds (p.cappedDelay attempt) (min v longest))
    (near : Near (initial * r) v) (agrees : Agrees r n) (finite : spread.isFinite) :
    p.delay spread attempt = .ofMillis (min (initial * n) longest) := by
  have product := (Agrees.refl initial).mul agrees near
  rw [whole.delay_of_holds capped (min_le_right _ _) finite, product.min_eq whole.longest_lt,
    Nat.floor_natCast]

section Early

variable (low : attempt < 2 ^ 31)

include low

theorem exists_holds_power : ∃ r, Holds (power p.multiplier (Int.bmod attempt 4294967296)) r ∧
    Estimates factor attempt r := by
  rw [bmod_of_lt low]
  exact Policy.exists_holds_power whole.multiplier whole.factor_pos (by omega)

/-- The delays follow the parameters as long as the power of the factor is finite. -/
theorem delay_eq_backoff (finite : spread.isFinite) (regular : p.Overflows attempt → 0 < initial) :
    p.delay spread attempt = backoff initial factor longest attempt := by
  obtain ⟨r, power, estimates⟩ := whole.exists_holds_power low
  have overflows : p.Overflows attempt ↔ 2 ^ 1024 ≤ r := by
    rw [← power.isInf_iff, bmod_of_lt low]
    rfl
  obtain ⟨v, capped, near⟩ := whole.exists_holds_cappedDelay power
    (fun large => regular (overflows.mpr large))
  exact whole.delay_of_near capped near estimates.agrees finite

/-- A delay of zero becomes the longest one when the power is infinite. -/
theorem delay_of_overflow (finite : spread.isFinite) (zero : initial = 0)
    (overflows : p.Overflows attempt) : p.delay spread attempt = .ofMillis longest := by
  subst zero
  -- The product is not a number, and what is not a number does not count as the smaller one.
  have capped : p.cappedDelay attempt = Float.ofNat longest := by
    have notANumber : (Float.ofNat 0 * power p.multiplier attempt).isNaN :=
      isNaN_mul isZero_zero overflows
    rw [whole.cappedDelay_eq, bmod_of_lt low, smaller, if_pos notANumber]
  have holds : Holds (p.cappedDelay attempt) longest := capped ▸ holds_ofNat whole.longest_lt
  rw [whole.delay_of_holds holds le_rfl finite, Nat.floor_natCast]

theorem overflows_of_le (large : 2 ^ 1024 ≤ factor ^ attempt * margin) : p.Overflows attempt := by
  obtain ⟨r, power, estimates⟩ := whole.exists_holds_power low
  rw [bmod_of_lt low] at power
  exact power.isInf_iff.mpr (estimates.overflow_of_le whole.factor_pos large)

theorem le_of_overflows (overflows : p.Overflows attempt) : 2 ^ 1024 * margin ≤ factor ^ attempt := by
  obtain ⟨r, power, estimates⟩ := whole.exists_holds_power low
  rw [bmod_of_lt low] at power
  exact estimates.le_of_overflow whole.factor_pos (power.isInf_iff.mp overflows)

theorem two_le_of_overflows (overflows : p.Overflows attempt) : 2 ≤ factor := by
  obtain ⟨r, power, estimates⟩ := whole.exists_holds_power low
  rw [bmod_of_lt low] at power
  have large := power.isInf_iff.mp overflows
  exact estimates.two_le whole.factor_pos ((one_lt_pow₀ one_lt_two (by decide)).trans_le large)

end Early

/-- Once a power is infinite, the further ones are too: the margin is narrower than the factor. -/
theorem overflows_succ (low : attempt + 1 < 2 ^ 31) (overflows : p.Overflows attempt) :
    p.Overflows (attempt + 1) := by
  have before : attempt < 2 ^ 31 := by omega
  have two : (2 : ℚ) ≤ factor := by exact_mod_cast whole.two_le_of_overflows before overflows
  have narrow : 1 ≤ margin * 2 * margin := by
    unfold margin
    norm_num
  refine whole.overflows_of_le low ?_
  calc (2 : ℚ) ^ 1024 ≤ 2 ^ 1024 * (margin * 2 * margin) := le_mul_of_one_le_right (by positivity) narrow
    _ = 2 ^ 1024 * margin * 2 * margin := by rw [← mul_assoc, ← mul_assoc]
    _ ≤ factor ^ attempt * factor * margin := by
      have := margin_pos
      gcongr
      exact whole.le_of_overflows before overflows
    _ = factor ^ (attempt + 1) * margin := by rw [pow_succ]

section Late

variable (high : 2 ^ 31 ≤ attempt) (word : attempt < 2 ^ 32 - 1)

include high word

/-- A factor of one keeps the delays the same. -/
theorem delay_of_ge_one (finite : spread.isFinite) (one : factor = 1) :
    p.delay spread attempt = backoff initial factor longest attempt := by
  subst one
  have power : Holds (power p.multiplier (Int.bmod attempt 4294967296)) 1 := by
    rw [bmod_of_ge high (by omega)]
    exact holds_one_power_neg (mod_cast whole.multiplier) (by omega) (by omega)
  obtain ⟨v, capped, near⟩ := whole.exists_holds_cappedDelay power
    (fun large => absurd large (not_le.mpr (one_lt_pow₀ one_lt_two (by decide))))
  rw [whole.delay_of_near (n := 1) capped near (mod_cast .refl 1) finite, backoff, Nat.one_pow]

/-- With a larger factor the delays are short. -/
theorem exists_delay_of_ge (finite : spread.isFinite) (two : 2 ≤ factor) :
    ∃ ms ≤ longest, 4 * ms ≤ initial ∧ p.delay spread attempt = .ofMillis ms := by
  obtain ⟨r, power, quarter⟩ : ∃ r,
      Holds (power p.multiplier (Int.bmod attempt 4294967296)) r ∧ r ≤ 1 / 4 := by
    rw [bmod_of_ge high (by omega)]
    exact exists_holds_power_neg whole.multiplier two (by omega) (by omega)
  have overflow : (1 : ℚ) < 2 ^ 1024 := one_lt_pow₀ one_lt_two (by decide)
  have small : r < 2 ^ 1024 := quarter.trans_lt (lt_trans (by norm_num) overflow)
  obtain ⟨v, capped, near⟩ := whole.exists_holds_cappedDelay power
    (fun large => absurd large (not_le.mpr small))
  have bound : v ≤ initial / 4 := by
    refine near.le (onGrid_quarter whole.initial_lt) ?_
    have nonneg : (0 : ℚ) ≤ initial := Nat.cast_nonneg initial
    have product := mul_le_mul_of_nonneg_left quarter nonneg
    linarith
  refine ⟨⌊min v longest⌋₊, ?_, ?_, whole.delay_of_holds capped (min_le_right _ _) finite⟩
  · exact Nat.floor_le_of_le (min_le_right _ _)
  · have floor : (⌊min v longest⌋₊ : ℚ) ≤ v := (Nat.floor_le capped.nonneg).trans (min_le_left _ _)
    have : (4 * ⌊min v longest⌋₊ : ℚ) ≤ initial := by linarith
    exact_mod_cast this

end Late

end IsWhole

/-! ## When the delays follow the parameters -/

section Following

variable (whole : p.IsWhole initial factor longest) (finite : spread.isFinite)

include whole

theorem IsWhole.two_le (more : factor ≠ 1) : 2 ≤ factor := by
  have := whole.factor_pos
  omega

include finite

/-- No delay is longer than the longest one. -/
theorem IsWhole.delay_le (word : attempt < 2 ^ 32 - 1) :
    (p.delay spread attempt).nanos ≤ p.maxDelay.nanos := by
  have bounded {ms : Nat} (bound : ms ≤ longest) (delay : p.delay spread attempt = .ofMillis ms) :
      (p.delay spread attempt).nanos ≤ p.maxDelay.nanos := by
    rw [delay, whole.maxDelay]
    exact Nat.mul_le_mul_right _ bound
  rcases lt_or_ge attempt (2 ^ 31) with low | high
  · by_cases regular : p.Overflows attempt → 0 < initial
    · exact bounded (min_le_right _ _) (whole.delay_eq_backoff low finite regular)
    · obtain ⟨overflows, zero⟩ := Classical.not_imp.mp regular
      exact bounded le_rfl (whole.delay_of_overflow low finite (Nat.eq_zero_of_not_pos zero) overflows)
  · by_cases one : factor = 1
    · exact bounded (min_le_right _ _) (whole.delay_of_ge_one high word finite one)
    · obtain ⟨ms, bound, _, delay⟩ := whole.exists_delay_of_ge high word finite (whole.two_le one)
      exact bounded bound delay

theorem IsWhole.delay_iff_of_lt (low : attempt < 2 ^ 31) :
    p.delay spread attempt = backoff initial factor longest attempt ↔
      ¬ (initial = 0 ∧ 0 < longest ∧ p.Overflows attempt) := by
  constructor
  · rintro follows ⟨rfl, positive, overflows⟩
    rw [whole.delay_of_overflow low finite rfl overflows, backoff_zero] at follows
    exact positive.ne' (ofMillis_injective follows)
  · intro regular
    by_cases lapses : initial = 0 ∧ p.Overflows attempt
    · obtain ⟨rfl, overflows⟩ := lapses
      have none : longest = 0 := Nat.eq_zero_of_not_pos fun positive => regular ⟨rfl, positive, overflows⟩
      rw [whole.delay_of_overflow low finite rfl overflows, backoff_zero, none]
    · exact whole.delay_eq_backoff low finite
        fun overflows => Nat.pos_of_ne_zero fun zero => lapses ⟨zero, overflows⟩

theorem IsWhole.delay_iff_of_ge (high : 2 ^ 31 ≤ attempt) (word : attempt < 2 ^ 32 - 1)
    (grows : initial < 4 * longest) :
    p.delay spread attempt = backoff initial factor longest attempt ↔ factor = 1 ∨ initial = 0 := by
  by_cases one : factor = 1
  · exact iff_of_true (whole.delay_of_ge_one high word finite one) (.inl one)
  have two := whole.two_le one
  obtain ⟨ms, _, short, delay⟩ := whole.exists_delay_of_ge high word finite two
  rcases initial.eq_zero_or_pos with rfl | pos
  · obtain rfl : ms = 0 := by omega
    exact iff_of_true (delay.trans backoff_zero.symm) (.inr rfl)
  · refine iff_of_false (fun follows => ?_) (not_or.mpr ⟨one, pos.ne'⟩)
    rw [delay, backoff_of_ge pos two whole.longest_lt high] at follows
    have same : ms = longest := ofMillis_injective follows
    omega

/-- Up to the attempt whose number does not fit into a signed number, the delays do not decrease. -/
theorem IsWhole.delay_mono {other : Float} (otherFinite : other.isFinite) (low : attempt + 1 < 2 ^ 31) :
    (p.delay spread attempt).nanos ≤ (p.delay other (attempt + 1)).nanos := by
  have before : attempt < 2 ^ 31 := by omega
  rcases initial.eq_zero_or_pos with rfl | pos
  · by_cases overflows : p.Overflows attempt
    · have later := whole.overflows_succ low overflows
      rw [whole.delay_of_overflow before finite rfl overflows,
        whole.delay_of_overflow low otherFinite rfl later]
    · rw [whole.delay_eq_backoff before finite fun infinite => absurd infinite overflows, backoff_zero]
      exact Nat.zero_le _
  · rw [whole.delay_eq_backoff before finite fun _ => pos,
      whole.delay_eq_backoff low otherFinite fun _ => pos]
    exact backoff_mono initial whole.factor_pos longest attempt

end Following

/-! ## The policy of an identity provider -/

section Settings

variable {s : IdentitySettings} {ms : Nat}

/-- The policy of an identity provider begins with the delay that is set, and keeps to it. -/
theorem isWhole_ofSettings (delay : s.retryDelay = .ofMillis ms) (small : ms < 2 ^ 53) :
    (ofSettings s).IsWhole ms 1 ms where
  initialDelay := delay
  maxDelay := delay
  initial_lt := small
  longest_lt := small
  finite := show (1 : Float).isFinite from rfl
  multiplier := mod_cast holds_one
  factor_pos := Nat.one_pos
  jitter := isZero_zero

theorem delay_ofSettings (delay : s.retryDelay = .ofMillis ms) (small : ms < 2 ^ 53)
    (finite : spread.isFinite) (word : attempt < 2 ^ 32 - 1) :
    (ofSettings s).delay spread attempt = s.retryDelay := by
  have whole := isWhole_ofSettings delay small
  have same : backoff ms 1 ms attempt = s.retryDelay := by
    rw [delay, backoff, Nat.one_pow, Nat.mul_one, Nat.min_self]
  rw [← same]
  rcases lt_or_ge attempt (2 ^ 31) with low | high
  · refine whole.delay_eq_backoff low finite fun overflows => ?_
    exact absurd (whole.two_le_of_overflows low overflows) (by decide)
  · exact whole.delay_of_ge_one high word finite rfl

theorem waits_ofSettings {spreads : Nat → Float} (delay : s.retryDelay = .ofMillis ms)
    (small : ms < 2 ^ 53) (finite : ∀ n, (spreads n).isFinite) {σ α : Type}
    (operation : σ → Except SignInError α × σ) (start : σ) :
    ∀ wait ∈ (execute (ofSettings s).attempts (fun n => (ofSettings s).delay (spreads n) n)
      operation start).waits, wait = s.retryDelay := by
  have some_allowed : 0 < (ofSettings s).attempts := Nat.lt_of_lt_of_le Nat.one_pos (le_max_right ..)
  have word : (ofSettings s).attempts ≤ 2 ^ 32 - 1 := max_le (min_le_right _ _) (by decide)
  obtain ⟨last, is, same⟩ := exists_isLast
    (fun n => (ofSettings s).delay (spreads n) n) operation start some_allowed
  rw [same]
  intro wait among
  obtain ⟨n, before, rfl⟩ := List.mem_map.mp among
  have lt := List.mem_range.mp before
  exact delay_ofSettings delay small (finite n) ((lt.trans is.lt).trans_le word)

end Settings

/-! ## The main statement -/

/-- No delay of a whole policy is longer than the longest one. As long as the number of the attempt fits
into a signed number, the delays do not decrease, and a delay follows the parameters if and only if the
first delay is not zero or the power of the factor is finite; otherwise it is the longest one. The power is
infinite if and only if it reaches `2 ^ 1024`, but for a narrow margin. Delays with greater numbers follow
the parameters only for a factor of one or a first delay of zero, unless the first delay is far longer than
the longest one: with a larger factor they are no longer than a quarter of the first. The policy of an
identity provider always waits for the delay that is set. -/
theorem delay_eq_backoff_iff {spreads : Nat → Float} (finite : ∀ n, (spreads n).isFinite) :
    (∀ {p : Policy} {initial factor longest : Nat}, p.IsWhole initial factor longest →
      (∀ n < 2 ^ 32 - 1, (p.delay (spreads n) n).nanos ≤ p.maxDelay.nanos) ∧
      (∀ n < 2 ^ 31,
        (p.delay (spreads n) n = backoff initial factor longest n ↔
          ¬ (initial = 0 ∧ 0 < longest ∧ p.Overflows n)) ∧
        (initial = 0 → p.Overflows n → p.delay (spreads n) n = p.maxDelay) ∧
        (2 ^ 1024 ≤ factor ^ n * margin → p.Overflows n) ∧
        (p.Overflows n → 2 ^ 1024 * margin ≤ factor ^ n)) ∧
      (∀ n < 2 ^ 32 - 1, 2 ^ 31 ≤ n →
        (factor = 1 → p.delay (spreads n) n = backoff initial factor longest n) ∧
        (2 ≤ factor → 4 * (p.delay (spreads n) n).nanos ≤ p.initialDelay.nanos) ∧
        (initial < 4 * longest →
          (p.delay (spreads n) n = backoff initial factor longest n ↔ factor = 1 ∨ initial = 0))) ∧
      ∀ n, n + 1 < 2 ^ 31 →
        (p.delay (spreads n) n).nanos ≤ (p.delay (spreads (n + 1)) (n + 1)).nanos) ∧
    ∀ {s : IdentitySettings} {ms : Nat}, s.retryDelay = .ofMillis ms → ms < 2 ^ 53 →
      (∀ n < 2 ^ 32 - 1, (ofSettings s).delay (spreads n) n = s.retryDelay) ∧
      ∀ {σ α : Type} (operation : σ → Except SignInError α × σ) (start : σ),
        ∀ wait ∈ (execute (ofSettings s).attempts (fun n => (ofSettings s).delay (spreads n) n)
          operation start).waits, wait = s.retryDelay := by
  constructor
  · intro p initial factor longest whole
    refine ⟨fun n word => whole.delay_le (finite n) word, fun n low => ⟨?_, ?_, ?_, ?_⟩,
      fun n word high => ⟨?_, ?_, ?_⟩, fun n low => ?_⟩
    · exact whole.delay_iff_of_lt (finite n) low
    · intro zero overflows
      rw [whole.delay_of_overflow low (finite n) zero overflows, whole.maxDelay]
    · exact whole.overflows_of_le low
    · exact whole.le_of_overflows low
    · exact whole.delay_of_ge_one high word (finite n)
    · intro two
      obtain ⟨ms, _, short, delay⟩ := whole.exists_delay_of_ge high word (finite n) two
      rw [delay, whole.initialDelay, Duration.ofMillis, Duration.ofMillis, ← Nat.mul_assoc]
      exact Nat.mul_le_mul_right _ short
    · exact whole.delay_iff_of_ge (finite n) high word
    · exact whole.delay_mono (finite n) (finite (n + 1)) low
  · intro s ms delay small
    exact ⟨fun n word => delay_ofSettings delay small (finite n) word,
      fun operation start => waits_ofSettings delay small finite operation start⟩

end Policy

end LoanGateway.Retry

namespace LoanGateway

namespace Sample

/-- A policy whose delay is doubled, from a first one in milliseconds up to five seconds. -/
def doubling (initial : Nat) : Retry.Policy := ⟨4294967295, .ofMillis initial, .ofMillis 5000, 2, 0⟩

end Sample

namespace Retry.Policy

open LoanGateway.Floating

theorem isWhole_doubling {initial : Nat} (small : initial < 2 ^ 53) :
    (Sample.doubling initial).IsWhole initial 2 5000 where
  initialDelay := rfl
  maxDelay := rfl
  initial_lt := small
  longest_lt := by decide
  finite := show (2 : Float).isFinite from rfl
  multiplier := holds_ofNat (n := 2) (by decide)
  factor_pos := by decide
  jitter := isZero_zero

/-- A tenth of a second is doubled five times before the longest delay is reached. -/
theorem delays_of_doubling :
    (0 : Float).isFinite ∧
      (Sample.doubling 100).IsWhole 100 2 5000 ∧
      (Sample.doubling 100).delay 0 5 = .ofMillis 3200 ∧
      (Sample.doubling 100).delay 0 6 = .ofMillis 5000 := by
  have finite (_ : Nat) : (0 : Float).isFinite := rfl
  have whole : (Sample.doubling 100).IsWhole 100 2 5000 := isWhole_doubling (by decide)
  obtain ⟨follows, _⟩ := delay_eq_backoff_iff finite
  obtain ⟨_, early, _⟩ := follows whole
  have law (n : Nat) (low : n < 2 ^ 31) := (early n low).1.mpr fun lapses => nomatch lapses.1
  exact ⟨finite 0, whole, law 5 (by decide), law 6 (by decide)⟩

/-- Without a first delay there is none before the power of the factor is infinite, and then there is the
longest one. -/
theorem endless_power_delays :
    (Sample.doubling 0).IsWhole 0 2 5000 ∧
      (Sample.doubling 0).delay 0 1023 = .ofMillis 0 ∧
      (Sample.doubling 0).delay 0 1024 = .ofMillis 5000 ∧
      (Sample.doubling 0).delay 0 1024 ≠ backoff 0 2 5000 1024 := by
  have zero : backoff 0 2 5000 1024 = .ofMillis 0 := backoff_zero
  have late : (Sample.doubling 0).delay 0 1024 = .ofMillis 5000 := by decide +kernel
  refine ⟨isWhole_doubling (by decide), by decide +kernel, late, ?_⟩
  rw [late, zero]
  decide

end Retry.Policy

end LoanGateway
