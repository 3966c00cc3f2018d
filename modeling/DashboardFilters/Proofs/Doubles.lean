import DashboardFilters.Value
import Mathlib

namespace DashboardFilters

namespace Doubles

open Float.Model (Format totalExponent UnpackedFloat)
open Float.Model.UnpackedFloat

/-- Whether a number is finite and its exponent has a place in the format of doubles. -/
def Fits : UnpackedFloat → Prop
  | .infinity _ | .notANumber => False
  | .zero _ => True
  | .finite _ _ exponent _ => exponent ≤ 971

/-- A bit pattern stands for a finite number when its exponent does not have all bits set. -/
theorem isFinite_unpack {bits : BitVec Format.binary64.numBits}
    (room : unpackExponent bits ≠ -1#_) : (unpack Format.binary64 bits).isFinite = true := by
  rw [unpack]
  dsimp only
  rw [if_neg room]
  split
  · split <;> rfl
  · rfl

/-- A bit pattern of a finite number does not have all bits of its exponent set. -/
theorem exponent_of_isFinite {bits : BitVec Format.binary64.numBits}
    (finite : (unpack Format.binary64 bits).isFinite = true) : unpackExponent bits ≠ -1#_ := by
  intro full
  rw [unpack] at finite
  dsimp only at finite
  rw [if_pos full] at finite
  split at finite <;> cases finite

/-- An exponent of eleven bits that are not all set. -/
theorem toNat_lt_of_ne {exponent : BitVec 11} (room : exponent ≠ -1#_) : exponent.toNat < 2047 := by
  have below := exponent.isLt
  have different : exponent.toNat ≠ 2047 := fun full => room (BitVec.eq_of_toNat_eq full)
  omega

theorem unpackExponent_pack_le {sign : Sign} {mantissa : Nat} {exponent high : Int}
    (some : 0 < mantissa) (small : exponent ≤ high) (low : high ≤ 971) :
    (unpackExponent (pack Format.binary64 (.finite sign mantissa exponent some))).toNat ≤
      (high + 1075).toNat := by
  have bias : (Format.binary64.exponentBias : Int) = 1023 := by decide
  have room : ¬2 ^ Format.binary64.exponentBits ≤ (exponent + Format.binary64.exponentBias +
      Format.binary64.mantissaBitsWithoutImplicit).toNat + 1 := by
    rw [bias]
    change ¬2048 ≤ (exponent + 1023 + 52).toNat + 1
    omega
  rw [pack]
  dsimp only
  rw [if_neg room]
  split
  · rw [unpackExponent_packComponents, bias, BitVec.toNat_ofNat]
    refine (Nat.mod_le _ _).trans ?_
    change (exponent + 1023 + 52).toNat ≤ _
    omega
  · rw [unpackExponent_packComponents]
    exact Nat.zero_le _

/-- A number that fits stays finite when it is packed. -/
theorem isFinite_pack {number : UnpackedFloat} (fits : Fits number) :
    (unpack Format.binary64 (pack Format.binary64 number)).isFinite = true := by
  apply isFinite_unpack
  cases number with
  | infinity sign => exact fits.elim
  | notANumber => exact fits.elim
  | zero sign =>
      rw [pack, packedZero, unpackExponent_packComponents]
      decide
  | finite sign mantissa exponent positive =>
      have below : (unpackExponent (pack Format.binary64
          (.finite sign mantissa exponent positive))).toNat ≤ (971 + 1075 : Int).toNat :=
        unpackExponent_pack_le positive fits (Int.le_refl 971)
      intro full
      rw [full] at below
      exact absurd below (by decide)

/-- Whether a number is finite and not zero, with 53 digits at most and an exponent in the given
bounds. -/
def Within (low high : Int) : UnpackedFloat → Bool
  | .infinity _ | .notANumber | .zero _ => false
  | .finite _ mantissa exponent _ => mantissa < 2 ^ 53 && low ≤ exponent && exponent ≤ high

theorem within_iff {low high : Int} {number : UnpackedFloat} : Within low high number = true ↔
    ∃ sign mantissa exponent some, number = .finite sign mantissa exponent some ∧
      mantissa < 2 ^ 53 ∧ low ≤ exponent ∧ exponent ≤ high := by
  cases number with
  | finite sign mantissa exponent some =>
      simp only [Within, Bool.and_eq_true, decide_eq_true_eq]
      constructor
      · rintro ⟨⟨short, above⟩, below⟩
        exact ⟨sign, mantissa, exponent, some, rfl, short, above, below⟩
      · rintro ⟨_, _, _, _, ⟨⟩, short, above, below⟩
        exact ⟨⟨short, above⟩, below⟩
  | infinity | notANumber | zero =>
      refine iff_of_false Bool.false_ne_true ?_
      rintro ⟨_, _, _, _, ⟨⟩, _⟩

/-- Whether a number is zero or else finite, with 53 digits at most and no exponent above the given
one. -/
def ZeroOrWithin (high : Int) (number : UnpackedFloat) : Prop :=
  (∃ sign, number = .zero sign) ∨ Within (-1074) high number = true

/-- What a bit pattern of no large exponent stands for. -/
theorem within_unpack {bits : BitVec Format.binary64.numBits} {high : Int} (positive : 0 ≤ high)
    (small : (unpackExponent bits).toNat ≤ (high + 1075).toNat) (low : high ≤ 971) :
    ZeroOrWithin high (unpack Format.binary64 bits) := by
  have room : unpackExponent bits ≠ -1#_ := by
    intro full
    have all : (unpackExponent bits).toNat = 2047 := by
      rw [full]
      decide
    omega
  have bias : (Format.binary64.exponentBias : Int) = 1023 := by decide
  rw [unpack]
  dsimp only
  rw [if_neg room]
  split
  next zero =>
    split
    · exact Or.inl ⟨_, rfl⟩
    · right
      rw [within_iff]
      have exponent : ((unpackExponent bits).toNat : Int) - (Format.binary64.exponentBias +
          Format.binary64.mantissaBitsWithoutImplicit) + 1 = -1074 := by
        rw [zero, bias]
        decide
      rw [exponent]
      exact ⟨_, _, _, _, rfl, (unpackMantissa bits).isLt.trans (by decide), by decide, by omega⟩
  next normal =>
    right
    rw [within_iff]
    have some : (unpackExponent bits).toNat ≠ 0 := fun none => normal (BitVec.eq_of_toNat_eq none)
    have exponent : ((unpackExponent bits).toNat : Int) - (Format.binary64.exponentBias +
        Format.binary64.mantissaBitsWithoutImplicit) = (unpackExponent bits).toNat - 1075 := by
      rw [bias]
      change _ - (1023 + 52) = _
      omega
    rw [exponent]
    exact ⟨_, _, _, _, rfl, (1#1 ++ unpackMantissa bits).isLt, by omega, by omega⟩

/-- A finite number that was packed fits. -/
theorem fits_unpack {bits : BitVec Format.binary64.numBits}
    (finite : (unpack Format.binary64 bits).isFinite = true) :
    Fits (unpack Format.binary64 bits) := by
  have below : (unpackExponent bits).toNat < 2047 := toNat_lt_of_ne (exponent_of_isFinite finite)
  have bounded : ZeroOrWithin 971 (unpack Format.binary64 bits) :=
    within_unpack (by decide) (by omega) (Int.le_refl 971)
  rcases bounded with ⟨sign, zero⟩ | within
  · rw [zero]
    trivial
  · obtain ⟨sign, mantissa, exponent, some, known, -, -, small⟩ := within_iff.mp within
    rw [known]
    exact small

theorem isFinite_neg {double : Float} (finite : double.isFinite = true) :
    (-double).isFinite = true := by
  have fits : Fits double.toModel.unpack := fits_unpack finite
  change (unpack Format.binary64 (pack Format.binary64 double.toModel.unpack.neg)).isFinite = true
  apply isFinite_pack
  cases known : double.toModel.unpack with
  | infinity sign => rw [known] at fits; exact fits.elim
  | notANumber => rw [known] at fits; exact fits.elim
  | zero sign => trivial
  | finite sign mantissa exponent positive => rw [known] at fits; exact fits

theorem mantissa_shiftRight (extended : ExtendedMantissa) (count : Nat) :
    (extended >>> count).mantissa = extended.mantissa / 2 ^ count := by
  induction count with
  | zero => exact (Nat.div_one _).symm
  | succ count ih =>
      change (extended >>> count).mantissa / 2 = _
      rw [ih, Nat.div_div_eq_div_mul, Nat.pow_succ]

theorem roundedMantissa_le (extended : ExtendedMantissa) :
    extended.roundedMantissa ≤ extended.mantissa + 1 := by
  obtain ⟨mantissa, round, sticky⟩ := extended
  cases round with
  | false => cases sticky <;> exact Nat.le_succ mantissa
  | true =>
      cases sticky with
      | false =>
          change mantissa + mantissa % 2 ≤ mantissa + 1
          omega
      | true => exact Nat.le_refl _

def shiftedExponent (mantissa : Nat) (exponent : Int) : Int :=
  max exponent (max ((mantissa.log2 : Int) + 1 + exponent - 53) (-1074))

theorem shiftToTargetExponent_eq (mantissa : Nat) (exponent : Int) (accuracy : Accuracy) :
    shiftToTargetExponent Format.binary64 mantissa exponent accuracy =
      (ExtendedMantissa.ofMantissaAndAccuracy mantissa accuracy >>>
        (shiftedExponent mantissa exponent - exponent).toNat,
        shiftedExponent mantissa exponent) := by
  have lowest : Format.binary64.minExponent = -1074 := by decide
  have width : Format.binary64.mantissaBits = 53 := by decide
  have amount :
      (Format.binary64.targetExponent (totalExponent mantissa exponent) - exponent).toNat =
        (shiftedExponent mantissa exponent - exponent).toNat := by
    rw [Format.targetExponent, totalExponent, lowest, width, shiftedExponent]
    omega
  have above : exponent ≤ shiftedExponent mantissa exponent := le_max_left _ _
  have reached : exponent + ((shiftedExponent mantissa exponent - exponent).toNat : Int) =
      shiftedExponent mantissa exponent := by
    omega
  rw [shiftToTargetExponent, shiftToExponent, amount, reached]

theorem mantissa_ofMantissaAndAccuracy (mantissa : Nat) (accuracy : Accuracy) :
    (ExtendedMantissa.ofMantissaAndAccuracy mantissa accuracy).mantissa = mantissa := by
  rcases accuracy with _ | half
  · rfl
  · cases half <;> rfl

/-- Shifted to its exponent, a mantissa has at most 53 digits. -/
theorem mantissa_shifted_lt (mantissa : Nat) (exponent : Int) (accuracy : Accuracy) :
    (ExtendedMantissa.ofMantissaAndAccuracy mantissa accuracy >>>
      (shiftedExponent mantissa exponent - exponent).toNat).mantissa < 2 ^ 53 := by
  have digits : mantissa < 2 ^ (mantissa.log2 + 1) := Nat.lt_log2_self
  have amount : mantissa.log2 + 1 ≤ 53 + (shiftedExponent mantissa exponent - exponent).toNat := by
    rw [shiftedExponent]
    omega
  rw [mantissa_shiftRight, mantissa_ofMantissaAndAccuracy,
    Nat.div_lt_iff_lt_mul (Nat.two_pow_pos _), ← Nat.pow_add]
  exact Nat.lt_of_lt_of_le digits (Nat.pow_le_pow_right Nat.two_pos amount)

/-- A number that was rounded: nothing is left of it, or a mantissa of at most 53 digits, or it has
become the first one of 54. -/
inductive RoundedTo (sign : UnpackedFloat.Sign) (exponent : Int) (rounded : Nat) :
    UnpackedFloat → Prop where
  | zero (none : rounded = 0) : RoundedTo sign exponent rounded (.zero sign)
  | kept (some : 0 < rounded) (short : rounded < 2 ^ 53) :
      RoundedTo sign exponent rounded (.finite sign rounded exponent some)
  | longer (long : rounded = 2 ^ 53) :
      RoundedTo sign exponent rounded (.finite sign (2 ^ 52) (exponent + 1) (by decide))

/-- What rounding does: the digits that do not fit are dropped, and one is added as they tell. -/
theorem roundedTo_roundWithAccuracy (sign : UnpackedFloat.Sign) (mantissa : Nat) (exponent : Int)
    (accuracy : Accuracy) : RoundedTo sign (shiftedExponent mantissa exponent)
      (ExtendedMantissa.ofMantissaAndAccuracy mantissa accuracy >>>
        (shiftedExponent mantissa exponent - exponent).toNat).roundedMantissa
      (roundWithAccuracy Format.binary64 sign mantissa exponent accuracy) := by
  have lowest : -1074 ≤ shiftedExponent mantissa exponent :=
    (le_max_right _ _).trans (le_max_right _ _)
  have short := mantissa_shifted_lt mantissa exponent accuracy
  rw [roundWithAccuracy, shiftToTargetExponent_eq]
  dsimp only
  generalize shiftedExponent mantissa exponent = shifted at *
  generalize ExtendedMantissa.ofMantissaAndAccuracy mantissa accuracy >>>
    (shifted - exponent).toNat = extended at *
  have most := roundedMantissa_le extended
  generalize extended.roundedMantissa = rounded at *
  rw [shiftToTargetExponent_eq]
  have kept := mantissa_ofMantissaAndAccuracy rounded .exact
  by_cases long : rounded = 2 ^ 53
  · have again : shiftedExponent rounded shifted = shifted + 1 := by
      have log : Nat.log2 (2 ^ 53) = 53 := by decide
      rw [shiftedExponent, long, log]
      omega
    have halved : (ExtendedMantissa.ofMantissaAndAccuracy rounded .exact >>>
        (shiftedExponent rounded shifted - shifted).toNat).mantissa = 2 ^ 52 := by
      have one : (shifted + 1 - shifted).toNat = 1 := by omega
      rw [mantissa_shiftRight, kept, long, ← long, again, one, long]
      decide
    have reached (final : Nat) (exponent : Int) (some : 0 < final) (same : final = 2 ^ 52)
        (next : exponent = shifted + 1) :
        RoundedTo sign shifted rounded (.finite sign final exponent some) := by
      subst same next
      exact .longer long
    dsimp only
    split
    next none => exact absurd (halved.symm.trans none) (by decide)
    next => exact reached _ _ _ halved again
  · have again : shiftedExponent rounded shifted = shifted := by
      have log : rounded.log2 ≤ 52 := by
        by_cases none : rounded = 0
        · subst none
          decide
        · have := (Nat.log2_lt none).mpr (show rounded < 2 ^ 53 by omega)
          omega
      rw [shiftedExponent]
      omega
    have same : (ExtendedMantissa.ofMantissaAndAccuracy rounded .exact >>>
        (shiftedExponent rounded shifted - shifted).toNat).mantissa = rounded := by
      rw [mantissa_shiftRight, kept, again, Int.sub_self]
      exact Nat.div_one rounded
    have reached (final : Nat) (exponent : Int) (some : 0 < final) (same : final = rounded)
        (next : exponent = shifted) :
        RoundedTo sign shifted rounded (.finite sign final exponent some) := by
      subst same next
      exact .kept some (by omega)
    dsimp only
    split
    next none => exact .zero (same.symm.trans none)
    next => exact reached _ _ _ same again

/-- A rounded number fits if its exponent has a place. -/
theorem RoundedTo.fits_iff {sign : UnpackedFloat.Sign} {exponent : Int} {rounded : Nat}
    {number : UnpackedFloat} (rounding : RoundedTo sign exponent rounded number) :
    Fits number ↔ exponent ≤ 970 ∨ exponent ≤ 971 ∧ rounded < 2 ^ 53 ∨ rounded = 0 := by
  cases rounding with
  | zero none => exact iff_of_true trivial (Or.inr (Or.inr none))
  | kept some short =>
      change exponent ≤ 971 ↔ _
      omega
  | longer long =>
      change exponent + 1 ≤ 971 ↔ _
      omega

/-- The conversion of a whole number of 64 bits rounds it to an exponent below 12. -/
theorem roundedTo_normalize (number : UInt64) :
    normalize Format.binary64 (number.toNat : Int) 0 .positive = .zero .positive ∨
      ∃ exponent < 12, ∃ rounded, RoundedTo .positive exponent rounded
        (normalize Format.binary64 (number.toNat : Int) 0 .positive) := by
  rw [UnpackedFloat.normalize]
  split
  next negative =>
    have below := Int.compare_eq_lt.mp negative
    omega
  next => exact .inl rfl
  next =>
    rw [Int.toNat_natCast, UnpackedFloat.round, decreaseExponent]
    refine .inr ⟨_, ?_, _, roundedTo_roundWithAccuracy _ _ _ _⟩
    generalize (0 - Format.binary64.targetExponent (totalExponent number.toNat 0)).toNat = shift
    have short : number.toNat <<< shift < 2 ^ (64 + shift) := by
      rw [Nat.shiftLeft_eq, Nat.pow_add]
      exact Nat.mul_lt_mul_of_pos_right number.toNat_lt (Nat.two_pow_pos _)
    have digits : (number.toNat <<< shift).log2 < 64 + shift := by
      by_cases none : number.toNat <<< shift = 0
      · rw [none, Nat.log2_zero]
        omega
      · exact (Nat.log2_lt none).mpr short
    rw [shiftedExponent]
    omega

theorem isFinite_toFloat (number : UInt64) : number.toFloat.isFinite = true := by
  apply isFinite_pack
  change Fits (normalize Format.binary64 (number.toNat : Int) 0 .positive)
  rcases roundedTo_normalize number with zero | ⟨exponent, small, rounded, rounding⟩
  · rw [zero]
    trivial
  · exact rounding.fits_iff.mpr (.inl (by omega))

end Doubles

theorem Value.isFinite_doubleOf (number : Int) :
    (doubleOf number).isFinite = true := by
  unfold doubleOf
  split
  · exact Doubles.isFinite_neg (Doubles.isFinite_toFloat _)
  · exact Doubles.isFinite_toFloat _

end DashboardFilters
