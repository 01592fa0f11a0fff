import Mathlib

/-! Integers as floating values. An integer of at most 64 bits is finite as a floating value: rounding adds to
an exponent no more than the bits of its mantissa, far from the greatest exponent. -/
namespace Retarget.Floating
open Float.Model (Format UnpackedFloat totalExponent)
open Float.Model.UnpackedFloat

/-- Zero, or finite with a mantissa of some bits and an exponent up to a bound. -/
inductive Within (bits : Nat) (top : Int) : UnpackedFloat → Prop
  | zero (sign : Sign) : Within bits top (.zero sign)
  | finite {sign : Sign} {mantissa : Nat} {exponent : Int} {positive : 0 < mantissa} (short : mantissa ≤ 2 ^ bits)
      (low : exponent ≤ top) : Within bits top (.finite sign mantissa exponent positive)

theorem Within.isFinite {bits : Nat} {top : Int} {value : UnpackedFloat} (within : Within bits top value) :
    value.isFinite = true := by
  cases within <;> rfl

theorem Within.mono {bits : Nat} {top high : Int} {value : UnpackedFloat} (within : Within bits top value)
    (le : top ≤ high) : Within bits high value := by
  cases within with
  | zero sign => exact .zero sign
  | finite short low => exact .finite short (Int.le_trans low le)

theorem Within.neg {bits : Nat} {top : Int} {value : UnpackedFloat} (within : Within bits top value) :
    Within bits top value.neg := by
  cases within with
  | zero sign => exact .zero _
  | finite short low => exact .finite short low

section Rounding

theorem mantissa_shiftRight (mantissa : ExtendedMantissa) (shift : Nat) :
    (mantissa >>> shift).mantissa ≤ mantissa.mantissa := by
  induction shift with
  | zero => exact Nat.le_refl _
  | succ shift ih => exact Nat.le_trans (Nat.div_le_self _ 2) ih

theorem roundedMantissa_le (mantissa : ExtendedMantissa) : mantissa.roundedMantissa ≤ mantissa.mantissa + 1 := by
  obtain ⟨mantissa, round, sticky⟩ := mantissa
  cases round <;> cases sticky <;>
    simp only [ExtendedMantissa.roundedMantissa, ExtendedMantissa.accuracy, Accuracy.roundToNearestEven]
  all_goals omega

theorem log2_le {mantissa bits : Nat} (short : mantissa ≤ 2 ^ bits) : mantissa.log2 ≤ bits := by
  by_cases zero : mantissa = 0
  · simp [zero]
  · have wider : 2 ^ bits < 2 ^ (bits + 1) := Nat.pow_lt_pow_right (by decide) (by omega)
    have less : mantissa.log2 < bits + 1 := (Nat.log2_lt zero).mpr (Nat.lt_of_le_of_lt short wider)
    omega

/-- A shift to the target exponent raises an exponent by no more than the mantissa has bits. -/
theorem shiftToTargetExponent_le (mantissa bits : Nat) (exponent top : Int) (short : mantissa ≤ 2 ^ bits)
    (low : exponent ≤ top) (least : -1074 ≤ top) :
    (shiftToTargetExponent Format.binary64 mantissa exponent .exact).1.mantissa ≤ 2 ^ bits ∧
      (shiftToTargetExponent Format.binary64 mantissa exponent .exact).2 ≤ top + bits := by
  have length := log2_le short
  refine ⟨Nat.le_trans (mantissa_shiftRight _ _) short, ?_⟩
  simp only [shiftToTargetExponent, shiftToExponent, Format.targetExponent, totalExponent, Format.mantissaBits,
    Format.minExponent]
  omega

theorem roundWithAccuracy_within (sign : Sign) (mantissa bits : Nat) (exponent top : Int) (short : mantissa ≤ 2 ^ bits)
    (low : exponent ≤ top) (least : -1074 ≤ top) :
    Within (bits + 1) (top + 2 * bits + 1) (roundWithAccuracy Format.binary64 sign mantissa exponent .exact) := by
  obtain ⟨still, shifted⟩ := shiftToTargetExponent_le mantissa bits exponent top short low least
  rw [roundWithAccuracy]
  generalize shiftToTargetExponent Format.binary64 mantissa exponent .exact = first at shifted still ⊢
  obtain ⟨extended, raised⟩ := first
  have carried : extended.roundedMantissa ≤ 2 ^ (bits + 1) := by
    have rounded := roundedMantissa_le extended
    have positive : 0 < 2 ^ bits := Nat.two_pow_pos bits
    dsimp only at still
    omega
  obtain ⟨again, raisedAgain⟩ :=
    shiftToTargetExponent_le extended.roundedMantissa (bits + 1) raised (top + bits) carried shifted (by omega)
  dsimp only
  split
  · exact .zero sign
  · exact .finite again (by omega)

theorem round_within (sign : Sign) (mantissa bits : Nat) (short : mantissa ≤ 2 ^ bits) :
    Within (bits + 54) (2 * bits + 107) (UnpackedFloat.round Format.binary64 sign mantissa 0) := by
  rw [UnpackedFloat.round, decreaseExponent]
  have few : (0 - Format.binary64.targetExponent (totalExponent mantissa 0)).toNat ≤ 53 := by
    simp only [Format.targetExponent, totalExponent, Format.mantissaBits, Format.minExponent]
    omega
  generalize (0 - Format.binary64.targetExponent (totalExponent mantissa 0)).toNat = shift at few ⊢
  have wide : mantissa <<< shift ≤ 2 ^ (bits + 53) := by
    rw [Nat.shiftLeft_eq, Nat.pow_add]
    exact Nat.mul_le_mul short (Nat.pow_le_pow_right (by decide) few)
  have rounded :=
    roundWithAccuracy_within sign (mantissa <<< shift) (bits + 53) (0 - shift) 0 wide (by omega) (by decide)
  have sum : (0 : Int) + 2 * (bits + 53 : Nat) + 1 = 2 * bits + 107 := by omega
  rwa [sum] at rounded

theorem mul_within (first second : UnpackedFloat) (bits others : Nat) (top high : Int) (left : Within bits top first)
    (right : Within others high second) (least : -1074 ≤ top + high) :
    Within (bits + others + 1) (top + high + 2 * (bits + others : Nat) + 1)
      (UnpackedFloat.mul Format.binary64 first second) := by
  cases left with
  | zero sign => cases right <;> exact .zero _
  | finite short low =>
    cases right with
    | zero sign => exact .zero _
    | finite shorter lower =>
      refine roundWithAccuracy_within _ _ (bits + others) _ (top + high) ?_ (Int.add_le_add low lower) least
      rw [Nat.pow_add]
      exact Nat.mul_le_mul short shorter

end Rounding

section Packing

/-- Components whose exponent is not the greatest one are those of a finite number. -/
theorem unpack_packComponents_within (sign : Sign) (exponent : BitVec 11) (mantissa : BitVec 52) (top : Int)
    (finite : exponent.toNat < 2047) (low : exponent.toNat ≤ top + 1075) (least : -1074 ≤ top) :
    Within 53 top (unpack Format.binary64 (packComponents Format.binary64 sign exponent mantissa)) := by
  have other : exponent ≠ -1#11 := by
    rintro rfl
    exact absurd finite (by decide)
  simp only [unpack, unpackExponent_packComponents, unpackMantissa_packComponents, Format.exponentBias]
  rw [if_neg other]
  split
  · split
    · exact .zero _
    · rename_i subnormal _
      refine .finite (Nat.le_trans (Nat.le_of_lt mantissa.isLt) (by decide)) ?_
      rw [subnormal]
      exact least
  · exact .finite (Nat.le_of_lt (1#1 ++ mantissa).isLt) (by omega)

theorem unpack_pack_within (value : UnpackedFloat) (bits : Nat) (top : Int) (within : Within bits top value)
    (fits : top ≤ 971) (least : -1074 ≤ top) :
    Within 53 top (unpack Format.binary64 (pack Format.binary64 value)) := by
  have atLeast : ((0#11).toNat : Int) ≤ top + 1075 := by
    rw [BitVec.toNat_zero]
    omega
  cases within with
  | zero sign => exact unpack_packComponents_within sign 0 0 top (by decide) atLeast least
  | @finite sign mantissa exponent positive _ low =>
    have inRange : ¬ 2 ^ Format.binary64.exponentBits ≤ (exponent + Format.binary64.exponentBias +
        Format.binary64.mantissaBitsWithoutImplicit).toNat + 1 := by
      change ¬ 2048 ≤ (exponent + 1023 + 52).toNat + 1
      omega
    have stored : (BitVec.ofNat 11 (exponent + 1023 + 52).toNat).toNat = (exponent + 1023 + 52).toNat := by
      rw [BitVec.toNat_ofNat, Nat.mod_eq_of_lt (by omega)]
    simp only [pack, if_neg inRange]
    split
    · exact unpack_packComponents_within sign (.ofNat 11 (exponent + 1023 + 52).toNat) _ top (by omega) (by omega) least
    · exact unpack_packComponents_within sign 0 _ top (by decide) atLeast least

end Packing

theorem ofUInt64_within (value : UInt64) : Within 53 235 value.toFloat.toModel.unpack := by
  have word : value.toNat ≤ 2 ^ 64 := Nat.le_of_lt value.toNat_lt
  have rounded : Within 118 235 (UnpackedFloat.ofInt Format.binary64 value.toNat) := by
    rw [UnpackedFloat.ofInt, UnpackedFloat.normalize]
    split
    · exact round_within _ _ 64 (by omega)
    · exact .zero _
    · exact round_within _ _ 64 (by omega)
  exact unpack_pack_within _ _ 235 rounded (by decide) (by decide)

theorem ofNat_within (value : Nat) (word : value ≤ 2 ^ 64) : Within 53 971 (Float.ofNat value).toModel.unpack := by
  change Within 53 971 (Float.ofScientific value false 0).toModel.unpack
  rw [Float.ofScientific]
  split
  · have one : Within 53 0 Float.exactlyRepresentablePowersOfTen[0].toModel.unpack :=
      .finite (by decide) (by decide)
    have product := mul_within _ _ _ _ _ _ (ofUInt64_within value.toUInt64) one (by decide)
    exact unpack_pack_within _ _ 971 (product.mono (by decide)) (by decide) (by decide)
  · refine unpack_pack_within (UnpackedFloat.ofScientific Format.binary64 value 0) 118 971 ?_ (by decide) (by decide)
    rw [UnpackedFloat.ofScientific]
    split
    · exact .zero _
    · have shifted : value <<< 53 ≤ 2 ^ 117 := by
        rw [Nat.shiftLeft_eq]
        omega
      have noUnderflow : ¬ (0 : Int) < -(2 ^ Format.binary64.exponentBits + (value.log2 : Int)) := by
        change ¬ (0 : Int) < -(2048 + (value.log2 : Int))
        omega
      rw [if_neg (by decide), if_neg noUnderflow, if_pos (by decide)]
      exact (mul_within _ _ 117 0 (-53) 0 (.finite shifted (Int.le_refl _)) (.finite (Nat.le_refl _) (Int.le_refl _))
        (by decide)).mono (by decide)

/-- Integers of up to 64 bits are finite as floating values. -/
theorem isFinite_ofInt (value : Int) (word : value.natAbs ≤ 2 ^ 64) : (Float.ofInt value).isFinite = true := by
  cases value with
  | ofNat value => exact (ofNat_within value word).isFinite
  | negSucc value => exact (unpack_pack_within _ _ 971 (ofNat_within _ word).neg (by decide) (by decide)).isFinite

end Retarget.Floating
