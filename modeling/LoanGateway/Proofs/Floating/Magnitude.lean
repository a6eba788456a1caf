import LoanGateway.Proofs.Floating.Rounding

/-!
# Magnitudes of floating-point numbers

- `IsCanonical`: the form of the mantissa and the exponent of a finite number.
- `isCanonical_of_unpack`: every finite number has it.
- `Shows`: the numbers that are not negative, and the values they stand for. Infinity stands for every
  value that is too large for a finite number.
- `exists_shows_roundWithAccuracy`: what rounding leads to stands for a value near the exact one.
-/

namespace LoanGateway.Floating

open Float.Model (Format UnpackedFloat)
open Float.Model.UnpackedFloat

/-! ## Bits -/

/-- The leading digit of a number stands before the bits of its mantissa. -/
theorem toNat_leading (mantissa : BitVec 52) : (1#1 ++ mantissa).toNat = 2 ^ 52 + mantissa.toNat := by
  rw [BitVec.toNat_append, ← Nat.shiftLeft_add_eq_or_of_lt mantissa.isLt]
  rfl

/-- The number that bits stand for. -/
theorem unpack_packComponents (sign : Sign) (exponent : BitVec 11) (mantissa : BitVec 52) :
    unpack Format.binary64 (packComponents Format.binary64 sign exponent mantissa) =
      if exponent = -1#11 then if mantissa = 0#52 then .infinity sign else .notANumber
      else if exponent = 0#11 then
        if h : mantissa = 0#52 then .zero sign
        else .finite sign mantissa.toNat (-1074) (by simpa [BitVec.toNat_pos, BitVec.pos_iff_ne_zero])
      else .finite sign (2 ^ 52 + mantissa.toNat) (exponent.toNat - 1075) (by omega) := by
  simp only [unpack, unpackMantissa_packComponents, unpackExponent_packComponents,
    unpackSign_packComponents, Sign.ofBitVec_toBitVec, toNat_leading]
  split
  · rfl
  split
  case isTrue zero => subst zero; rfl
  case isFalse => rfl

@[simp] theorem unpack_pack_zero (sign : Sign) :
    (Float.Model.pack (.zero sign)).unpack = .zero sign :=
  unpack_packedZero

@[simp] theorem unpack_pack_infinity (sign : Sign) :
    (Float.Model.pack (.infinity sign)).unpack = .infinity sign :=
  unpack_packComponents sign (-1#11) 0#52

@[simp] theorem unpack_pack_notANumber :
    (Float.Model.pack .notANumber).unpack = .notANumber :=
  unpack_packedNaN

section Canonical

variable {sign : Sign} {m : Nat} {e : Int}

/-- The mantissa and the exponent of a finite number: there are 53 digits, or less at the last place of
all. The exponent may be too large for the bits. -/
structure IsCanonical (m : Nat) (e : Int) : Prop where
  pos : 0 < m
  lt : m < 2 ^ 53
  least : -1074 ≤ e
  full : 2 ^ 52 ≤ m ∨ e = -1074

/-- The bits of a finite number. -/
theorem pack_finite (pos : 0 < m) (least : -1075 ≤ e) :
    pack Format.binary64 (.finite sign m e pos) =
      if 972 ≤ e then packedInfinity Format.binary64 sign
      else if m.log2 = 52 then
        packComponents Format.binary64 sign (.ofNat 11 (e + 1075).toNat) (.ofNat 52 m)
      else packComponents Format.binary64 sign 0#11 (.ofNat 52 m) := by
  have biased : e + Format.binary64.exponentBias + (52 : Nat) = e + 1075 := by
    have bias : Format.binary64.exponentBias = 1023 := by decide
    omega
  have large : 2 ^ 11 ≤ (e + 1075).toNat + 1 ↔ 972 ≤ e := by omega
  have full : m.log2 + 1 = Format.binary64.mantissaBits ↔ m.log2 = 52 := Nat.succ_inj
  simp only [pack, biased, large, full]

theorem unpack_pack_normal (pos : 0 < m) (lower : 2 ^ 52 ≤ m) (upper : m < 2 ^ 53)
    (least : -1074 ≤ e) (most : e < 972) :
    (Float.Model.pack (.finite sign m e pos)).unpack = .finite sign m e pos := by
  have digits : m.log2 = 52 := (Nat.log2_eq_iff pos.ne').mpr ⟨lower, upper⟩
  have exponent : (BitVec.ofNat 11 (e + 1075).toNat).toNat = (e + 1075).toNat := by
    rw [BitVec.toNat_ofNat]
    omega
  have mantissa : 2 ^ 52 + (BitVec.ofNat 52 m).toNat = m := by
    rw [BitVec.toNat_ofNat]
    omega
  have notLast : BitVec.ofNat 11 (e + 1075).toNat ≠ -1#11 := by
    rw [Ne, ← BitVec.toNat_inj, exponent]
    show (e + 1075).toNat ≠ 2047
    omega
  have notFirst : BitVec.ofNat 11 (e + 1075).toNat ≠ 0#11 := by
    rw [Ne, ← BitVec.toNat_inj, exponent]
    show (e + 1075).toNat ≠ 0
    omega
  show unpack Format.binary64 (pack Format.binary64 (.finite sign m e pos)) = _
  rw [pack_finite pos (by omega), if_neg (by omega), if_pos digits, unpack_packComponents,
    if_neg notLast, if_neg notFirst]
  congr 1
  omega

theorem unpack_pack_subnormal (pos : 0 < m) (upper : m < 2 ^ 52) :
    (Float.Model.pack (.finite sign m (-1074) pos)).unpack = .finite sign m (-1074) pos := by
  have digits : m.log2 ≠ 52 := ((Nat.log2_lt pos.ne').mpr upper).ne
  have mantissa : (BitVec.ofNat 52 m).toNat = m := BitVec.toNat_ofNat m 52 ▸ Nat.mod_eq_of_lt upper
  have nonzero : BitVec.ofNat 52 m ≠ 0#52 := by
    rw [Ne, ← BitVec.toNat_inj, mantissa]
    exact pos.ne'
  show unpack Format.binary64 (pack Format.binary64 (.finite sign m (-1074) pos)) = _
  rw [pack_finite pos (by omega), if_neg (by omega), if_neg digits, unpack_packComponents,
    if_neg (by decide), if_pos rfl, dif_neg nonzero]
  congr 1

/-- A finite number is kept by its bits unless its exponent is too large. -/
theorem unpack_pack (canonical : IsCanonical m e) :
    (Float.Model.pack (.finite sign m e canonical.pos)).unpack =
      if e < 972 then .finite sign m e canonical.pos else .infinity sign := by
  split
  · by_cases lower : 2 ^ 52 ≤ m
    · exact unpack_pack_normal canonical.pos lower canonical.lt canonical.least ‹_›
    · obtain rfl := canonical.full.resolve_left lower
      exact unpack_pack_subnormal canonical.pos (not_le.mp lower)
  · rename_i large
    show unpack Format.binary64 (pack Format.binary64 (.finite sign m e canonical.pos)) = _
    rw [pack_finite canonical.pos (by omega), if_pos (by omega)]
    exact unpack_packComponents sign (-1#11) 0#52

/-- A finite number is in canonical form. -/
theorem isCanonical_of_unpack {x : Float.Model} {pos : 0 < m}
    (finite : x.unpack = .finite sign m e pos) : IsCanonical m e ∧ e < 972 := by
  have bias : ((Format.binary64.exponentBias : Int) + (52 : Nat)) = 1075 := by decide
  have mantissa : (@unpackMantissa Format.binary64 x.toBits.toBitVec).toNat < 2 ^ 52 := BitVec.isLt _
  have exponent : (@unpackExponent Format.binary64 x.toBits.toBitVec).toNat < 2048 := BitVec.isLt _
  simp only [Float.Model.unpack, unpack, toNat_leading, bias] at finite
  split at finite
  · split at finite <;> cases finite
  rename_i notLast
  split at finite
  · rename_i first
    split at finite
    · cases finite
    cases finite
    rw [first]
    exact ⟨⟨pos, mantissa.trans (by decide), by decide, .inr rfl⟩, by decide⟩
  · rename_i notFirst
    have positive := mt BitVec.eq_of_toNat_eq notFirst
    have below := mt BitVec.eq_of_toNat_eq notLast
    simp only [BitVec.toNat_ofNat, BitVec.toNat_neg] at positive below
    cases finite
    exact ⟨⟨pos, by omega, by omega, .inl (by omega)⟩, by omega⟩

end Canonical

/-! ## Values -/

/-- A number that is not negative, and the value it stands for. -/
inductive Shows : UnpackedFloat → ℚ → Prop
  | zero (sign : Sign) : Shows (.zero sign) 0
  | finite {m : Nat} {e : Int} (canonical : IsCanonical m e) :
      Shows (.finite .positive m e canonical.pos) (scaled m e)
  | infinity {v : ℚ} (large : 2 ^ 1024 ≤ v) : Shows (.infinity .positive) v

namespace Shows

variable {u : UnpackedFloat} {v : ℚ}

theorem nonneg (shown : Shows u v) : 0 ≤ v := by
  cases shown with
  | zero => exact le_rfl
  | finite => exact scaled_nonneg _ _
  | infinity large => exact le_trans (by positivity) large

theorem isNaN_eq_false (shown : Shows u v) : u.isNaN = false := by cases shown <;> rfl

theorem isFinite (shown : Shows u v) (small : v < 2 ^ 1024) : u.isFinite := by
  cases shown with
  | infinity large => exact absurd small (not_lt.mpr large)
  | _ => rfl

theorem onGrid (shown : Shows u v) (finite : u.isFinite) : OnGrid v := by
  cases shown with
  | zero => exact onGrid_natCast (n := 0) (by decide)
  | finite canonical => exact ⟨_, _, canonical.lt, canonical.least, rfl⟩
  | infinity => cases finite

/-- The infinite number stands for any value that is large enough. -/
theorem of_isInf {w : ℚ} (shown : Shows u v) (infinite : u.isInf) (large : 2 ^ 1024 ≤ w) : Shows u w := by
  cases shown with
  | infinity => exact .infinity large
  | _ => cases infinite

theorem isFinite_or_isInf (shown : Shows u v) : u.isFinite ∨ u.isInf := by
  cases shown with
  | infinity => exact .inr rfl
  | _ => exact .inl rfl

theorem large (shown : Shows u v) (infinite : u.isInf) : 2 ^ 1024 ≤ v := by
  cases shown with
  | infinity large => exact large
  | _ => cases infinite

end Shows

theorem scaled_of_large {m : Nat} {e : Int} (canonical : IsCanonical m e) (large : 972 ≤ e) :
    2 ^ 1024 ≤ scaled m e := by
  have full : 2 ^ 52 ≤ m := canonical.full.resolve_right (by omega)
  have base : (2 : ℚ) ^ 972 ≤ 2 ^ e := by
    rw [← zpow_natCast]
    exact zpow_le_zpow_right₀ one_le_two large
  have mantissa : (2 : ℚ) ^ 52 ≤ m := by exact_mod_cast full
  calc (2 : ℚ) ^ 1024 = 2 ^ 52 * 2 ^ 972 := pow_add 2 52 972
    _ ≤ m * 2 ^ e := mul_le_mul mantissa base (by positivity) (Nat.cast_nonneg m)
    _ = scaled m e := rfl

theorem scaled_of_small {m : Nat} {e : Int} (canonical : IsCanonical m e) (small : e < 972) :
    scaled m e < 2 ^ 1024 := by
  have base : (2 : ℚ) ^ e ≤ 2 ^ 971 := by
    rw [← zpow_natCast]
    exact zpow_le_zpow_right₀ one_le_two (Int.le_of_lt_add_one small)
  have mantissa : (m : ℚ) < 2 ^ 53 := by exact_mod_cast canonical.lt
  calc scaled m e = m * 2 ^ e := rfl
    _ < 2 ^ 53 * 2 ^ 971 := mul_lt_mul mantissa base (by positivity) (by positivity)
    _ = 2 ^ 1024 := (pow_add 2 53 971).symm

/-- The bits of a number in canonical form stand for its value. -/
theorem shows_pack {m : Nat} {e : Int} (canonical : IsCanonical m e) :
    Shows (Float.Model.pack (.finite .positive m e canonical.pos)).unpack (scaled m e) := by
  rw [unpack_pack canonical]
  split
  · exact .finite canonical
  · exact .infinity (scaled_of_large canonical (by omega))

theorem shows_pack_zero (sign : Sign) : Shows (Float.Model.pack (.zero sign)).unpack 0 := by
  rw [unpack_pack_zero]
  exact .zero sign

theorem shows_pack_infinity {v : ℚ} (large : 2 ^ 1024 ≤ v) :
    Shows (Float.Model.pack (.infinity .positive)).unpack v := by
  rw [unpack_pack_infinity]
  exact .infinity large

section Rounding

variable {acc : Accuracy} {m : Nat} {e : Int} {v : ℚ}

/-- Rounding in two steps: digits are dropped, and then a carry into one digit more is dropped again. -/
theorem roundWithAccuracy_eq (sign : Sign) (m : Nat) (e : Int) (acc : Accuracy) :
    roundWithAccuracy Format.binary64 sign m e acc =
      let place := e + dropped m e
      let carry := dropped (rounded m e acc) place
      if h : rounded m e acc / 2 ^ carry = 0 then .zero sign
      else .finite sign (rounded m e acc / 2 ^ carry) (place + carry) (Nat.pos_of_ne_zero h) := by
  simp only [roundWithAccuracy, shiftToTargetExponent_eq, mantissa_shiftRight,
    mantissa_ofMantissaAndAccuracy]
  rfl

theorem shows_roundWithAccuracy (low : e ≤ lastPlace m e) :
    Shows (Float.Model.pack (roundWithAccuracy Format.binary64 .positive m e acc)).unpack
      (scaled (rounded m e acc) (lastPlace m e)) := by
  have place : e + dropped m e = lastPlace m e := by
    unfold dropped
    omega
  have least : -1074 ≤ lastPlace m e := le_max_right _ _
  have full := rounded_full_or_last acc low
  have most := rounded_le m e acc
  rw [roundWithAccuracy_eq, place]
  generalize rounded m e acc = r at full most ⊢
  -- Only a carry through all 53 digits gives a number with one digit more.
  rcases most.lt_or_eq with small | carried
  · simp only [dropped_eq_zero small least, Nat.pow_zero, Nat.div_one]
    split
    case isTrue zero =>
      rw [zero, scaled_zero]
      exact shows_pack_zero _
    case isFalse nonzero =>
      simpa using shows_pack ⟨Nat.pos_of_ne_zero nonzero, small, least, full⟩
  · subst carried
    have carry : scaled (2 ^ 53) (lastPlace m e) = scaled (2 ^ 52) (lastPlace m e + 1) :=
      scaled_mul_two_pow (2 ^ 52) 1 _
    simp only [dropped_carry least]
    rw [carry]
    exact shows_pack ⟨by decide, by decide, by omega, .inl le_rfl⟩

/-- What rounding leads to stands for a number near the exact one. -/
theorem exists_shows_roundWithAccuracy (within : Within acc m e v) (full : 2 ^ 52 ≤ m ∨ e ≤ -1074) :
    ∃ r, Shows (Float.Model.pack (roundWithAccuracy Format.binary64 .positive m e acc)).unpack r ∧
      Near v r :=
  ⟨_, shows_roundWithAccuracy (le_lastPlace full), near_rounded within (le_lastPlace full)⟩

end Rounding

end LoanGateway.Floating
