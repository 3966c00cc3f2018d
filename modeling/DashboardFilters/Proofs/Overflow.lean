import DashboardFilters.Proofs.Doubles

/-!
When the double nearest to a number is infinite. Rounding keeps the digits that tell a number from
the middle between the greatest double and the next power of two, so the number is finite just below
that middle.
-/

namespace DashboardFilters.Doubles

open Float.Model (Format totalExponent UnpackedFloat)
open Float.Model.UnpackedFloat

/-- Twice a mantissa, and one more if its round bit is set. -/
def halves (extended : ExtendedMantissa) : Nat :=
  2 * extended.mantissa + extended.roundBit.toNat

theorem mantissa_eq (extended : ExtendedMantissa) : extended.mantissa = halves extended / 2 := by
  unfold halves
  cases extended.roundBit
  · change _ = (2 * extended.mantissa + 0) / 2
    omega
  · change _ = (2 * extended.mantissa + 1) / 2
    omega

/-- Shifting drops halves as it drops digits. -/
theorem halves_shiftRight (extended : ExtendedMantissa) (count : Nat) :
    halves (extended >>> count) = halves extended / 2 ^ count := by
  induction count with
  | zero => exact (Nat.div_one _).symm
  | succ count ih =>
      have step : halves (extended >>> (count + 1)) = (extended >>> count).mantissa := by
        change 2 * ((extended >>> count).mantissa / 2) +
          ((extended >>> count).mantissa % 2 != 0).toNat = _
        rcases Nat.mod_two_eq_zero_or_one (extended >>> count).mantissa with even | odd
        · rw [even]
          change _ + 0 = _
          omega
        · rw [odd]
          change _ + 1 = _
          omega
      rw [step, mantissa_eq, ih, Nat.div_div_eq_div_mul, Nat.pow_succ]

/-- A mantissa of 53 digits gets no more of them just if it is not the last one with its round bit
set. -/
theorem roundedMantissa_lt_iff {extended : ExtendedMantissa} (short : extended.mantissa < 2 ^ 53) :
    extended.roundedMantissa < 2 ^ 53 ↔ halves extended < 2 ^ 54 - 1 := by
  obtain ⟨mantissa, round, sticky⟩ := extended
  change mantissa < 2 ^ 53 at short
  cases round with
  | false =>
      have kept : (⟨mantissa, false, sticky⟩ : ExtendedMantissa).roundedMantissa = mantissa := by
        cases sticky <;> rfl
      rw [kept]
      change _ ↔ 2 * mantissa + 0 < _
      omega
  | true =>
      change _ ↔ 2 * mantissa + 1 < _
      cases sticky with
      | false =>
          change mantissa + mantissa % 2 < _ ↔ _
          omega
      | true =>
          change mantissa + 1 < _ ↔ _
          omega

theorem le_roundedMantissa (extended : ExtendedMantissa) :
    extended.mantissa ≤ extended.roundedMantissa := by
  obtain ⟨mantissa, round, sticky⟩ := extended
  cases round <;> cases sticky
  · exact Nat.le_refl mantissa
  · exact Nat.le_refl mantissa
  · exact Nat.le_add_right mantissa _
  · exact Nat.le_succ mantissa

/-- The middle between the greatest double and the next power of two, as a count of halves of a
power of two. -/
def limit (exponent : Int) : Nat :=
  (2 ^ 54 - 1) * 2 ^ (971 - exponent).toNat

def middle : Nat :=
  limit 1

theorem limit_eq {exponent : Int} (extra : Nat) (room : exponent + extra = 1) :
    limit exponent = 2 ^ extra * middle := by
  have more : (971 - exponent).toNat = (971 - 1 : Int).toNat + extra := by omega
  rw [middle, limit, limit, more, Nat.pow_add, ← Nat.mul_assoc, Nat.mul_comm]

/-- Rounding gives a number that fits just below the middle between the greatest double and the next
power of two. -/
theorem fits_roundWithAccuracy_iff (sign : UnpackedFloat.Sign) (mantissa : Nat) {exponent : Int}
    (accuracy : Accuracy) (low : exponent ≤ 970) :
    Fits (roundWithAccuracy Format.binary64 sign mantissa exponent accuracy) ↔
      halves (ExtendedMantissa.ofMantissaAndAccuracy mantissa accuracy) < limit exponent := by
  have short := mantissa_shifted_lt mantissa exponent accuracy
  rw [(roundedTo_roundWithAccuracy sign mantissa exponent accuracy).fits_iff, limit]
  have dropped := halves_shiftRight (ExtendedMantissa.ofMantissaAndAccuracy mantissa accuracy)
    (shiftedExponent mantissa exponent - exponent).toNat
  have rounds := roundedMantissa_lt_iff short
  have kept := mantissa_shiftRight (ExtendedMantissa.ofMantissaAndAccuracy mantissa accuracy)
    (shiftedExponent mantissa exponent - exponent).toNat
  rw [mantissa_ofMantissaAndAccuracy] at kept
  have atLeast :
      2 * mantissa ≤ halves (ExtendedMantissa.ofMantissaAndAccuracy mantissa accuracy) := by
    rw [halves, mantissa_ofMantissaAndAccuracy]
    exact Nat.le_add_right _ _
  generalize ExtendedMantissa.ofMantissaAndAccuracy mantissa accuracy = extended at *
  have shifted : shiftedExponent mantissa exponent =
      max exponent (max ((mantissa.log2 : Int) + 1 + exponent - 53) (-1074)) := rfl
  rcases lt_trichotomy (shiftedExponent mantissa exponent) 971 with below | reached | above
  · -- The exponent is one below the greatest at most, and there are 53 digits at most.
    refine iff_of_true (Or.inl (by omega)) ?_
    have digits : halves extended / 2 ^ (shiftedExponent mantissa exponent - exponent).toNat <
        2 ^ 54 := by
      rw [mantissa_eq] at short
      omega
    have room : (shiftedExponent mantissa exponent - exponent).toNat + 1 ≤
        (971 - exponent).toNat := by
      omega
    have power := Nat.pow_le_pow_right Nat.two_pos room
    rw [Nat.div_lt_iff_lt_mul (Nat.two_pow_pos _)] at digits
    rw [Nat.pow_succ] at power
    omega
  · -- With the greatest exponent, rounding must not add a digit.
    rw [← Nat.div_lt_iff_lt_mul (Nat.two_pow_pos _), ← reached, ← dropped, ← rounds]
    omega
  · -- Beyond the greatest exponent there are 53 digits.
    have wide : (mantissa.log2 : Int) + 1 + exponent - 53 = shiftedExponent mantissa exponent := by
      omega
    have some : mantissa ≠ 0 := by
      rintro rfl
      have none : Nat.log2 0 = 0 := by decide
      omega
    have digits := Nat.log2_self_le some
    refine iff_of_false ?_ ?_
    · have more : 2 ^ 52 ≤ mantissa / 2 ^ (shiftedExponent mantissa exponent - exponent).toNat := by
        rw [Nat.le_div_iff_mul_le (Nat.two_pow_pos _), ← Nat.pow_add]
        exact (Nat.pow_le_pow_right Nat.two_pos (by omega)).trans digits
      have grows := le_roundedMantissa
        (extended >>> (shiftedExponent mantissa exponent - exponent).toNat)
      omega
    · have room : 54 + (971 - exponent).toNat ≤ mantissa.log2 + 1 := by omega
      have power := Nat.pow_le_pow_right Nat.two_pos room
      rw [Nat.pow_add, Nat.pow_succ] at power
      omega

/-- A number stays finite when it is packed just if it fits. -/
theorem isFinite_pack_iff {number : UnpackedFloat} :
    (unpack Format.binary64 (pack Format.binary64 number)).isFinite = true ↔ Fits number := by
  refine ⟨fun finite => ?_, isFinite_pack⟩
  have room := exponent_of_isFinite finite
  cases number with
  | infinity sign =>
      rw [pack, packedInfinity, unpackExponent_packComponents] at room
      exact absurd rfl room
  | notANumber =>
      rw [pack, packedNaN, unpackExponent_packComponents] at room
      exact absurd rfl room
  | zero sign => trivial
  | finite sign mantissa exponent positive =>
      change exponent ≤ 971
      by_contra large
      have bias : (Format.binary64.exponentBias : Int) = 1023 := by decide
      have beyond : 2 ^ Format.binary64.exponentBits ≤ (exponent + Format.binary64.exponentBias +
          Format.binary64.mantissaBitsWithoutImplicit).toNat + 1 := by
        rw [bias]
        change 2048 ≤ (exponent + 1023 + 52).toNat + 1
        omega
      rw [pack] at room
      dsimp only at room
      rw [if_pos beyond, packedInfinity, unpackExponent_packComponents] at room
      exact absurd rfl room

/-- A double is finite just if its negation is. -/
theorem isFinite_neg_iff {double : Float} : (-double).isFinite = true ↔ double.isFinite = true := by
  refine ⟨fun finite => ?_, isFinite_neg⟩
  have fits : Fits double.toModel.unpack.neg := isFinite_pack_iff.mp finite
  change (double.toModel.unpack).isFinite = true
  cases known : double.toModel.unpack with
  | infinity sign => rw [known] at fits; exact fits.elim
  | notANumber => rw [known] at fits; exact fits.elim
  | zero sign => rfl
  | finite sign mantissa exponent positive => rfl

/-- A product of two numbers is rounded to one that fits just if it is below the middle. -/
theorem fits_mul_iff {first second : Nat} {exponent other : Int} (some : 0 < first)
    (someToo : 0 < second) (low : exponent + other ≤ 970) :
    Fits (UnpackedFloat.mul Format.binary64 (.finite .positive first exponent some)
      (.finite .positive second other someToo)) ↔
        2 * (first * second) < limit (exponent + other) :=
  fits_roundWithAccuracy_iff _ _ .exact low

/-- The remainder of a division tells the half of the quotient that the exact one lies in. -/
theorem halves_accuracyOfFraction (dividend : Nat) {divisor : Nat} (some : 0 < divisor) :
    halves (ExtendedMantissa.ofMantissaAndAccuracy (dividend / divisor)
      (accuracyOfFraction (dividend % divisor) divisor)) = 2 * dividend / divisor := by
  have whole := Nat.div_add_mod dividend divisor
  have below := Nat.mod_lt dividend some
  generalize dividend / divisor = quotient at *
  generalize dividend % divisor = remainder at *
  subst whole
  have split : 2 * (divisor * quotient + remainder) / divisor =
      2 * remainder / divisor + 2 * quotient := by
    rw [← Nat.add_mul_div_left _ _ some]
    congr 1
    rw [Nat.mul_add, Nat.mul_left_comm, Nat.add_comm]
  rw [split, accuracyOfFraction]
  split
  next none =>
    rw [none, Nat.mul_zero, Nat.zero_div, Nat.zero_add]
    rfl
  next =>
    rcases Nat.lt_trichotomy (2 * remainder) divisor with less | same | more
    · rw [Nat.compare_eq_lt.mpr less, Nat.div_eq_of_lt less, Nat.zero_add]
      rfl
    · rw [Nat.compare_eq_eq.mpr same, same, Nat.div_self some, Nat.add_comm]
      rfl
    · rw [Nat.compare_eq_gt.mpr more, Nat.div_eq_of_lt_le (k := 1) (by omega) (by omega),
        Nat.add_comm]
      rfl

/-- A quotient of two whole numbers is rounded to one that fits just if it is below the middle. -/
theorem fits_div_iff {dividend divisor : Nat} (some : 0 < dividend) (someToo : 0 < divisor) :
    Fits (UnpackedFloat.div Format.binary64 (.finite .positive dividend 0 some)
      (.finite .positive divisor 0 someToo)) ↔ dividend < middle * divisor := by
  let target := min ((0 : Int) - 0) (Format.binary64.targetExponent
    (totalExponent dividend 0 - totalExponent divisor 0))
  let shift := (0 - 0 - target).toNat
  have low : target ≤ 0 := min_le_left _ _
  change Fits (roundWithAccuracy Format.binary64 _ ((dividend <<< shift) / divisor) target
    (accuracyOfFraction ((dividend <<< shift) % divisor) divisor)) ↔ _
  have room : target + (shift + 1 : Nat) = 1 := by omega
  have scaled : 2 * (dividend * 2 ^ shift) = 2 ^ (shift + 1) * dividend := by ring
  rw [fits_roundWithAccuracy_iff _ _ _ (by omega), halves_accuracyOfFraction _ someToo,
    limit_eq _ room, Nat.div_lt_iff_lt_mul someToo, Nat.shiftLeft_eq, scaled, Nat.mul_assoc,
    Nat.mul_lt_mul_left (Nat.two_pow_pos _)]

/-- A power of ten, times a whole number, is rounded to one that fits just if it is below the
middle. -/
theorem fits_scaled_iff {count : Nat} (some : 0 < count <<< 53) {power : Nat}
    (someToo : 0 < power) :
    Fits (UnpackedFloat.mul Format.binary64 (.finite .positive (count <<< 53) (-53) some)
      (.finite .positive power 0 someToo)) ↔ count * power < middle := by
  have room : (-53 + 0 : Int) + (54 : Nat) = 1 := by decide
  have scaled : 2 * (count * 2 ^ 53 * power) = 2 ^ 54 * (count * power) := by ring
  rw [fits_mul_iff some someToo (by decide), limit_eq _ room, Nat.shiftLeft_eq, scaled,
    Nat.mul_lt_mul_left (Nat.two_pow_pos _)]

/-- The powers of ten that are known as doubles have small exponents. -/
theorem within_powers (places : Nat) (few : places ≤ 22) : Within (-52) 21
    (Float.exactlyRepresentablePowersOfTen.getInternal places
      (Nat.lt_succ_of_le few)).toModel.unpack := by
  have each : ∀ places : Fin 23, Within (-52) 21
      (Float.exactlyRepresentablePowersOfTen.getInternal places.val
        places.isLt).toModel.unpack := by
    decide +kernel
  exact each ⟨places, Nat.lt_succ_of_le few⟩

/-- The exponent of a number that was rounded and packed. -/
theorem RoundedTo.unpackExponent_le {sign : UnpackedFloat.Sign} {exponent high : Int}
    {rounded : Nat} {number : UnpackedFloat} (rounding : RoundedTo sign exponent rounded number)
    (small : exponent < high) (low : high ≤ 971) :
    (unpackExponent (pack Format.binary64 number)).toNat ≤ (high + 1075).toNat := by
  cases rounding with
  | zero =>
      rw [pack, packedZero, unpackExponent_packComponents]
      exact Nat.zero_le _
  | kept some => exact unpackExponent_pack_le some (by omega) low
  | longer => exact unpackExponent_pack_le _ (by omega) low

/-- A whole number of 64 bits becomes a double of no large exponent. -/
theorem within_toFloat (number : UInt64) :
    ZeroOrWithin 12 number.toFloat.toModel.unpack := by
  refine within_unpack (by decide) ?_ (by decide)
  change (unpackExponent (pack Format.binary64
    (normalize Format.binary64 (number.toNat : Int) 0 .positive))).toNat ≤ _
  rcases roundedTo_normalize number with zero | ⟨exponent, small, rounded, rounding⟩
  · rw [zero, pack, packedZero, unpackExponent_packComponents]
    exact Nat.zero_le _
  · exact rounding.unpackExponent_le small (by decide)

/-- A number of few digits is below the middle. -/
theorem two_pow_le_limit (digits : Nat) {exponent : Int} (few : digits + exponent ≤ 1024) :
    2 ^ digits ≤ limit exponent := by
  have room : digits ≤ 53 + (971 - exponent).toNat := by omega
  calc 2 ^ digits ≤ 2 ^ 53 * 2 ^ (971 - exponent).toNat := by
        rw [← Nat.pow_add]
        exact Nat.pow_le_pow_right Nat.two_pos room
    _ ≤ limit exponent := Nat.mul_le_mul_right _ (by decide)

section

variable {first second : UnpackedFloat}

/-- A product of numbers of no large exponent fits. -/
theorem fits_mul (one : ZeroOrWithin 12 first) (two : Within (-52) 21 second = true) :
    Fits (first.mul Format.binary64 second) := by
  obtain ⟨sign, mantissa, exponent, some, rfl, short, above, below⟩ := within_iff.mp two
  rcases one with ⟨other, rfl⟩ | one
  · trivial
  obtain ⟨other, count, power, someToo, rfl, shortToo, aboveToo, belowToo⟩ := within_iff.mp one
  refine (fits_roundWithAccuracy_iff _ _ .exact (by omega)).mpr
    (Nat.lt_of_lt_of_le ?_ (two_pow_le_limit 107 (by omega)))
  change 2 * (count * mantissa) + 0 < _
  have product := Nat.mul_lt_mul'' shortToo short
  omega

/-- A quotient of numbers of no large exponent fits. -/
theorem fits_div (one : ZeroOrWithin 12 first) (two : Within (-52) 21 second = true) :
    Fits (first.div Format.binary64 second) := by
  obtain ⟨sign, mantissa, exponent, some, rfl, short, above, below⟩ := within_iff.mp two
  rcases one with ⟨other, rfl⟩ | one
  · trivial
  obtain ⟨other, count, power, someToo, rfl, shortToo, aboveToo, belowToo⟩ := within_iff.mp one
  let target := min (power - exponent) (Format.binary64.targetExponent
    (totalExponent count power - totalExponent mantissa exponent))
  let shift := (power - exponent - target).toNat
  have low : target ≤ power - exponent := min_le_left _ _
  change Fits (roundWithAccuracy Format.binary64 _ ((count <<< shift) / mantissa) target
    (accuracyOfFraction ((count <<< shift) % mantissa) mantissa))
  rw [fits_roundWithAccuracy_iff _ _ _ (by omega), halves_accuracyOfFraction _ some]
  refine Nat.lt_of_lt_of_le (Nat.lt_of_le_of_lt (Nat.div_le_self _ _) ?_)
    (two_pow_le_limit (54 + shift) (by omega))
  rw [Nat.shiftLeft_eq, Nat.pow_add, ← Nat.mul_assoc]
  exact Nat.mul_lt_mul_of_pos_right (by omega) (Nat.two_pow_pos _)

end

theorem two_pow_le_middle (digits : Nat) (few : digits ≤ 1023) : 2 ^ digits ≤ middle :=
  two_pow_le_limit digits (by omega)

theorem ten_pow_le_two_pow (places : Nat) : 10 ^ places ≤ 2 ^ (4 * places) := by
  rw [Nat.pow_mul]
  exact Nat.pow_le_pow_left (by decide) places

theorem two_pow_le_ten_pow (places : Nat) : 2 ^ (3 * places) ≤ 10 ^ places := by
  rw [Nat.pow_mul]
  exact Nat.pow_le_pow_left (by decide) places

/-- Every power of ten from the 400th on is beyond the middle. -/
theorem middle_le_ten_pow {places : Nat} (many : 400 ≤ places) : middle ≤ 10 ^ places := by
  have width : 54 + (971 - 1 : Int).toNat = 1024 := by decide
  calc middle ≤ 2 ^ 54 * 2 ^ (971 - 1 : Int).toNat := Nat.mul_le_mul_right _ (Nat.sub_le _ _)
    _ ≤ 2 ^ (3 * places) := by
        rw [← Nat.pow_add]
        exact Nat.pow_le_pow_right Nat.two_pos (by omega)
    _ ≤ 10 ^ places := two_pow_le_ten_pow places

/-- Whether a number that is written with a power of ten is below the middle. -/
def Below (count : Nat) (exponent : Int) : Prop :=
  count * 10 ^ exponent.toNat < middle * 10 ^ (-exponent).toNat

theorem below_zero (exponent : Int) : Below 0 exponent := by
  rw [Below, Nat.zero_mul]
  exact Nat.mul_pos (two_pow_le_middle 0 (by decide)) (Nat.pow_pos (by decide))

/-- A number of few places is below the middle. -/
theorem below_of_lt {count : Nat} {exponent : Int} (digits : Nat) (short : count < 10 ^ digits)
    (few : digits + exponent ≤ 200) : Below count exponent := by
  have room : digits + exponent.toNat ≤ 200 + (-exponent).toNat := by omega
  calc count * 10 ^ exponent.toNat < 10 ^ digits * 10 ^ exponent.toNat :=
        Nat.mul_lt_mul_of_pos_right short (Nat.pow_pos (by decide))
    _ ≤ 10 ^ 200 * 10 ^ (-exponent).toNat := by
        rw [← Nat.pow_add, ← Nat.pow_add]
        exact Nat.pow_le_pow_right (by decide) room
    _ ≤ middle * 10 ^ (-exponent).toNat :=
        Nat.mul_le_mul_right _ ((ten_pow_le_two_pow 200).trans (two_pow_le_middle _ (by decide)))

/-- A number of many places is not below the middle. -/
theorem not_below_of_le {count : Nat} {exponent : Int} (digits : Nat) (long : 10 ^ digits ≤ count)
    (many : 400 ≤ digits + exponent) : ¬Below count exponent := by
  have room : 400 + (-exponent).toNat ≤ digits + exponent.toNat := by omega
  refine Nat.not_lt.mpr ?_
  calc middle * 10 ^ (-exponent).toNat ≤ 10 ^ 400 * 10 ^ (-exponent).toNat :=
        Nat.mul_le_mul_right _ (middle_le_ten_pow (Nat.le_refl 400))
    _ ≤ 10 ^ digits * 10 ^ exponent.toNat := by
        rw [← Nat.pow_add, ← Nat.pow_add]
        exact Nat.pow_le_pow_right (by decide) room
    _ ≤ count * 10 ^ exponent.toNat := Nat.mul_le_mul_right _ long

/-- A number that is written with a power of ten becomes one that fits just if it is below the
middle. -/
theorem fits_ofScientific_iff (count : Nat) (exponent : Int) :
    Fits (UnpackedFloat.ofScientific Format.binary64 count exponent) ↔ Below count exponent := by
  rw [UnpackedFloat.ofScientific]
  split
  next none =>
    subst none
    exact iff_of_true trivial (below_zero exponent)
  next some =>
  have positive : 0 < count := Nat.pos_of_ne_zero some
  split
  next large =>
    have many : 2048 < exponent := large
    refine iff_of_false id (not_below_of_le 0 positive (by omega))
  next =>
  split
  next small =>
    have few : exponent < -(2048 + count.log2) := small
    refine iff_of_true trivial (below_of_lt (count.log2 + 1) ?_ (by omega))
    exact Nat.lt_log2_self.trans_le (Nat.pow_le_pow_left (by decide) _)
  next =>
  split
  next up =>
    have none : (-exponent).toNat = 0 := by omega
    rw [Below, none, Nat.pow_zero, Nat.mul_one]
    exact fits_scaled_iff _ _
  next down =>
    have none : exponent.toNat = 0 := by omega
    rw [Below, none, Nat.pow_zero, Nat.mul_one]
    exact fits_div_iff positive _

/-- The double of a number that is written with a power of ten is finite just if the number is below
the middle. -/
theorem isFinite_ofScientific_iff (count : Nat) (exponent : Int) :
    (Float.ofScientific count (exponent < 0) exponent.natAbs).isFinite = true ↔
      Below count exponent := by
  rw [Float.ofScientific]
  split
  next exact =>
    obtain ⟨short, few⟩ := exact
    refine iff_of_true ?_ (below_of_lt 53
      (short.trans_le (Nat.pow_le_pow_left (by decide) 53)) (by omega))
    dsimp only
    split
    · exact isFinite_pack (fits_div (within_toFloat _) (within_powers _ few))
    · exact isFinite_pack (fits_mul (within_toFloat _) (within_powers _ few))
  next =>
    have same : (if decide (exponent < 0) = true then Int.negOfNat exponent.natAbs
        else Int.ofNat exponent.natAbs) = exponent := by
      cases exponent with
      | ofNat number => rfl
      | negSucc number => exact if_pos (decide_eq_true (Int.negSucc_lt_zero number))
    rw [← fits_ofScientific_iff, same]
    exact isFinite_pack_iff

end DashboardFilters.Doubles

namespace DashboardFilters.Decimal

open Doubles

/-- The double nearest to a number is finite just if the number is below the middle. -/
theorem isFinite_nearest_iff (negative : Bool) (count : Nat) (exponent : Int) :
    (nearest negative count exponent).isFinite = true ↔ Below count exponent := by
  unfold nearest
  extract_lets places magnitude
  have unsigned : magnitude.isFinite = true ↔ Below count exponent := by
    unfold magnitude
    split
    next none =>
      subst none
      exact iff_of_true (by decide) (below_zero exponent)
    next some =>
    have digits : (Nat.toDigits 10 count).length - 1 + 1 = (Nat.toDigits 10 count).length :=
      Nat.sub_add_cancel Nat.length_toDigits_pos
    have reach : places = exponent + (Nat.toDigits 10 count).length := rfl
    split
    next many =>
      refine iff_of_false (by decide +kernel)
        (not_below_of_le ((Nat.toDigits 10 count).length - 1) ?_ (by omega))
      rcases Nat.eq_zero_or_pos ((Nat.toDigits 10 count).length - 1) with one | more
      · rw [one]
        exact Nat.pos_of_ne_zero some
      · rw [← Nat.not_lt, ← Nat.length_toDigits_le_iff (by decide) more]
        omega
    next =>
    split
    next few =>
      refine iff_of_true (by decide) (below_of_lt (Nat.toDigits 10 count).length ?_
        (by omega))
      exact (Nat.length_toDigits_le_iff (by decide) Nat.length_toDigits_pos).mp (Nat.le_refl _)
    next => exact isFinite_ofScientific_iff count exponent
  cases negative with
  | true => exact isFinite_neg_iff.trans unsigned
  | false => exact unsigned

/-- The number is compared as it is. -/
theorem below_iff (count : Nat) (exponent : Int) :
    Below count exponent ↔ (count : ℚ) * 10 ^ exponent < 2 ^ 1024 - 2 ^ 970 := by
  have split : (10 : ℚ) ^ exponent = 10 ^ exponent.toNat / 10 ^ (-exponent).toNat := by
    rw [← zpow_natCast, ← zpow_natCast, ← zpow_sub₀ (by norm_num)]
    congr 1
    omega
  have whole : (middle : ℚ) = 2 ^ 1024 - 2 ^ 970 := by
    have width : (971 - 1 : Int).toNat = 970 := by decide
    have doubled : (2 : ℚ) ^ 1024 = 2 ^ 54 * 2 ^ 970 := pow_add 2 54 970
    rw [middle, limit, width, doubled, Nat.cast_mul, Nat.cast_pow, Nat.cast_ofNat]
    generalize (2 : ℚ) ^ 970 = power
    push_cast
    ring
  have some : (0 : ℚ) < 10 ^ (-exponent).toNat := pow_pos (by norm_num) _
  rw [split, ← mul_div_assoc, div_lt_iff₀ some, ← whole, Below]
  exact_mod_cast Iff.rfl

end DashboardFilters.Decimal
