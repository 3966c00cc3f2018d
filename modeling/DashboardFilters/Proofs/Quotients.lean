import DashboardFilters.Json.Numbers
import DashboardFilters.Proofs.Overflow

namespace DashboardFilters.Doubles

open Float.Model (Format UnpackedFloat totalExponent)
open Float.Model.UnpackedFloat

/-- A mantissa of 53 digits is packed with its exponent. -/
theorem unpackExponent_pack_eq {sign : Sign} {mantissa : Nat} {exponent : Int}
    (some : 0 < mantissa) (long : 2 ^ 52 ≤ mantissa) (short : mantissa < 2 ^ 53)
    (low : -1074 ≤ exponent) (small : exponent ≤ 971) :
    ((unpackExponent (pack Format.binary64 (.finite sign mantissa exponent some))).toNat : Int) =
      exponent + 1075 := by
  have bias : (Format.binary64.exponentBias : Int) = 1023 := by decide
  have room : ¬2 ^ Format.binary64.exponentBits ≤ (exponent + Format.binary64.exponentBias +
      Format.binary64.mantissaBitsWithoutImplicit).toNat + 1 := by
    rw [bias]
    change ¬2048 ≤ (exponent + 1023 + 52).toNat + 1
    omega
  have digits : mantissa.log2 + 1 = Format.binary64.mantissaBits := by
    have width : Format.binary64.mantissaBits = 53 := by decide
    have log : mantissa.log2 = 52 := (Nat.log2_eq_iff (Nat.ne_of_gt some)).mpr ⟨long, short⟩
    rw [width, log]
  rw [pack]
  dsimp only
  rw [if_neg room, if_pos digits, unpackExponent_packComponents, bias, BitVec.toNat_ofNat]
  have inside : (exponent + 1023 + 52).toNat < 2048 := by omega
  change (((exponent + 1023 + 52).toNat % 2048 : Nat) : Int) = _
  rw [Nat.mod_eq_of_lt inside]
  omega

/-- What a bit pattern with an exponent stands for. -/
theorem within_unpack_normal {bits : BitVec Format.binary64.numBits} {low high : Int}
    (some : 0 < (unpackExponent bits).toNat) (above : low + 1075 ≤ (unpackExponent bits).toNat)
    (below : ((unpackExponent bits).toNat : Int) ≤ high + 1075) (top : high ≤ 971) :
    Within low high (unpack Format.binary64 bits) = true := by
  have room : unpackExponent bits ≠ -1#_ := by
    intro full
    have all : (unpackExponent bits).toNat = 2047 := by
      rw [full]
      decide
    omega
  have normal : unpackExponent bits ≠ 0#_ := by
    intro none
    rw [none] at some
    exact absurd some (by decide)
  have bias : (Format.binary64.exponentBias : Int) = 1023 := by decide
  have exponent : ((unpackExponent bits).toNat : Int) - (Format.binary64.exponentBias +
      Format.binary64.mantissaBitsWithoutImplicit) = (unpackExponent bits).toNat - 1075 := by
    rw [bias]
    change _ - (1023 + 52) = _
    omega
  rw [unpack]
  dsimp only
  rw [if_neg room, if_neg normal, within_iff, exponent]
  exact ⟨_, _, _, _, rfl, (1#1 ++ unpackMantissa bits).isLt, by omega, by omega⟩

/-- A number with 53 digits is packed as it is. -/
theorem within_pack {sign : Sign} {mantissa : Nat} {exponent low : Int} (some : 0 < mantissa)
    (long : 2 ^ 52 ≤ mantissa) (short : mantissa < 2 ^ 53) (bounded : -1074 ≤ low)
    (above : low ≤ exponent) (small : exponent ≤ 971) :
    Within low 971 (unpack Format.binary64
      (pack Format.binary64 (.finite sign mantissa exponent some))) = true := by
  have packed : ((unpackExponent (pack Format.binary64
      (.finite sign mantissa exponent some))).toNat : Int) = exponent + 1075 :=
    unpackExponent_pack_eq some long short (by omega) small
  exact within_unpack_normal (by omega) (by omega) (by omega) (Int.le_refl 971)

/-- A number of more than 53 digits is rounded to one of 53 digits. -/
theorem within_rounded {sign : Sign} {mantissa : Nat} {exponent low : Int} {accuracy : Accuracy}
    (wide : 53 ≤ mantissa.log2) (bounded : -1074 ≤ low)
    (above : low ≤ mantissa.log2 + exponent - 52)
    (fits : Fits (roundWithAccuracy Format.binary64 sign mantissa exponent accuracy)) :
    Within low 971 (unpack Format.binary64 (pack Format.binary64
      (roundWithAccuracy Format.binary64 sign mantissa exponent accuracy))) = true := by
  have rounding := roundedTo_roundWithAccuracy sign mantissa exponent accuracy
  have shifted : shiftedExponent mantissa exponent = mantissa.log2 + exponent - 52 := by
    rw [shiftedExponent]
    omega
  have some : mantissa ≠ 0 := by
    rintro rfl
    exact absurd wide (by decide)
  have long : 2 ^ 52 ≤ (ExtendedMantissa.ofMantissaAndAccuracy mantissa accuracy >>>
      (shiftedExponent mantissa exponent - exponent).toNat).roundedMantissa := by
    refine le_trans ?_ (le_roundedMantissa _)
    rw [mantissa_shiftRight, mantissa_ofMantissaAndAccuracy,
      Nat.le_div_iff_mul_le (Nat.two_pow_pos _), ← Nat.pow_add]
    exact (Nat.pow_le_pow_right Nat.two_pos (by omega)).trans (Nat.log2_self_le some)
  generalize (ExtendedMantissa.ofMantissaAndAccuracy mantissa accuracy >>>
    (shiftedExponent mantissa exponent - exponent).toNat).roundedMantissa = rounded at rounding long
  rw [shifted] at rounding
  generalize roundWithAccuracy Format.binary64 sign mantissa exponent accuracy = number at *
  cases rounding with
  | zero none => omega
  | kept positive short => exact within_pack positive long short bounded above fits
  | longer =>
      exact within_pack (by decide) (Nat.le_refl _) (by decide) bounded (by omega) fits

/-- A power of ten is below the middle if a greater one is. -/
theorem below_of_le {places most : Nat} (few : places ≤ most) (below : Below 1 most) :
    Below 1 places := by
  have whole (count : Nat) : Below 1 count ↔ 10 ^ count < middle := by
    have none : (-(count : Int)).toNat = 0 := by omega
    rw [Below, Int.toNat_natCast, none, Nat.one_mul, Nat.pow_zero, Nat.mul_one]
  rw [whole] at below ⊢
  exact (Nat.pow_le_pow_right (by decide) few).trans_lt below

/-- The powers of ten up to the 308th are below the middle. -/
theorem below_power {places : Nat} (few : places ≤ 308) : Below 1 places := by
  have finite : (Float.ofScientific 1 false 308).isFinite = true := by decide +kernel
  exact below_of_le few ((isFinite_ofScientific_iff 1 (308 : Nat)).mp finite)

/-- A power of ten is rounded to its first digits. -/
theorem ofScientific_power {places : Nat} (few : places ≤ 308) :
    UnpackedFloat.ofScientific Format.binary64 1 places =
      roundWithAccuracy Format.binary64 .positive ((1 <<< 53) * 10 ^ places) (-53) .exact := by
  have range : (2 : Int) ^ Format.binary64.exponentBits = 2048 := by decide
  have large : ¬ (places : Int) > 2 ^ Format.binary64.exponentBits := by omega
  have small : ¬ (places : Int) < -(2 ^ Format.binary64.exponentBits + (Nat.log2 1 : Nat)) := by
    omega
  rw [UnpackedFloat.ofScientific, dif_neg (by decide), if_neg large, if_neg small,
    if_pos (Int.natCast_nonneg places)]
  rfl

/-- The powers of ten that doubles reach are no less than one. -/
theorem within_power {places : Nat} (few : places ≤ 308) :
    Within (-52) 971 (Float.ofScientific 1 false places).toModel.unpack = true := by
  by_cases exact : places ≤ 22
  · have each : ∀ places : Fin 23,
        Within (-52) 971 (Float.ofScientific 1 false places).toModel.unpack = true := by
      decide +kernel
    exact each ⟨places, Nat.lt_succ_of_le exact⟩
  · have inexact : ¬ (1 < 2 ^ 53 ∧ places ≤ 22) := fun both => exact both.2
    have digits : 53 ≤ ((1 <<< 53) * 10 ^ places).log2 := by
      have some : 0 < 10 ^ places := Nat.pow_pos (by decide)
      exact (Nat.le_log2 (by omega)).mpr (Nat.le_mul_of_pos_right _ some)
    have fits := (fits_ofScientific_iff 1 places).mpr (below_power few)
    rw [ofScientific_power few] at fits
    rw [Float.ofScientific, dif_neg inexact]
    change Within (-52) 971 (unpack Format.binary64 (pack Format.binary64
      (UnpackedFloat.ofScientific Format.binary64 1 places))) = true
    rw [ofScientific_power few]
    exact within_rounded digits (by decide) (by omega) fits

section

variable {first second : UnpackedFloat} {high : Int}

/-- A quotient by a number that is no less than one is not much greater. -/
theorem within_div (one : ZeroOrWithin high first) (two : Within (-52) 971 second = true)
    (positive : 0 ≤ high) (room : high + 53 ≤ 971) :
    ZeroOrWithin (high + 53) (unpack Format.binary64
      (pack Format.binary64 (first.div Format.binary64 second))) := by
  refine within_unpack (by omega) ?_ room
  obtain ⟨sign, mantissa, exponent, some, rfl, short, above, below⟩ := within_iff.mp two
  rcases one with ⟨other, rfl⟩ | one
  · change (unpackExponent (pack Format.binary64 (.zero _))).toNat ≤ _
    rw [pack, packedZero, unpackExponent_packComponents]
    exact Nat.zero_le _
  obtain ⟨other, count, power, someToo, rfl, shortToo, aboveToo, belowToo⟩ := within_iff.mp one
  let target := min (power - exponent) (Format.binary64.targetExponent
    (totalExponent count power - totalExponent mantissa exponent))
  let shift := (power - exponent - target).toNat
  have low : target ≤ power - exponent := min_le_left _ _
  change (unpackExponent (pack Format.binary64 (roundWithAccuracy Format.binary64 _
    ((count <<< shift) / mantissa) target
    (accuracyOfFraction ((count <<< shift) % mantissa) mantissa)))).toNat ≤ _
  refine (roundedTo_roundWithAccuracy _ _ _ _).unpackExponent_le ?_ room
  have wide : (count <<< shift) / mantissa < 2 ^ (53 + shift) := by
    refine Nat.lt_of_le_of_lt (Nat.div_le_self _ _) ?_
    rw [Nat.shiftLeft_eq, Nat.pow_add]
    exact Nat.mul_lt_mul_of_pos_right shortToo (Nat.two_pow_pos _)
  have digits : ((count <<< shift) / mantissa).log2 < 53 + shift := by
    by_cases none : (count <<< shift) / mantissa = 0
    · rw [none, Nat.log2_zero]
      omega
    · exact (Nat.log2_lt none).mpr wide
  rw [shiftedExponent]
  omega

end

/-- A double of no large exponent is finite. -/
theorem isFinite_of_within {double : Float} {high : Int}
    (bounded : ZeroOrWithin high double.toModel.unpack) : double.isFinite = true := by
  change double.toModel.unpack.isFinite = true
  rcases bounded with ⟨sign, zero⟩ | within
  · rw [zero]
    rfl
  · obtain ⟨sign, mantissa, exponent, some, known, -⟩ := within_iff.mp within
    rw [known]
    rfl

end DashboardFilters.Doubles

namespace DashboardFilters.Json

open Doubles

/-- A number that is scaled by a power of ten is finite, if it is had at all. -/
theorem isFinite_of_scaled (fuel : Nat) {significand value : Float} {exponent high : Int}
    (bounded : ZeroOrWithin high significand.toModel.unpack) (positive : 0 ≤ high)
    (room : high + 53 * (fuel + 1) ≤ 971) (known : scaled? fuel significand exponent = some value) :
    value.isFinite = true := by
  fun_induction scaled? fuel significand exponent generalizing high
  case case1 finite =>
    rw [← Option.some.inj known]
    exact finite
  case case2 => cases known
  case case3 few _ _ =>
    cases known
    exact isFinite_of_within (within_div bounded (within_power few) positive (by omega))
  case case4 =>
    cases known
    exact isFinite_of_within bounded
  case case5 => cases known
  case case6 =>
    cases known
    decide
  case case7 ih =>
    have quotient := within_div bounded (within_power (Nat.le_refl 308)) positive (by omega)
    exact ih quotient (by omega) (by omega) known

theorem isFinite_of_double {negative : Bool} {significand : Nat} {exponent : Int} {value : Float}
    (known : double? negative significand exponent = some value) : value.isFinite = true := by
  obtain ⟨magnitude, scaled, rfl⟩ := Option.map_eq_some_iff.mp known
  have finite := isFinite_of_scaled 4 (within_toFloat _) (by decide) (by decide) scaled
  cases negative with
  | true => exact isFinite_neg finite
  | false => exact finite

end DashboardFilters.Json
