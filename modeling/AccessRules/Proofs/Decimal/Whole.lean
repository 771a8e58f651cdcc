import Mathlib
import AccessRules.Proofs.Decimal.Order
import AccessRules.Proofs.Decimal.Unsigned

/-!
# Doubles of whole numbers

A whole number with at most 53 binary digits is a double as it is, and so is the sum of two of them
if it has no more. Larger numbers lose digits, but none of them becomes zero.
-/

namespace AccessRules.Decimal

open Float.Model Float.Model.UnpackedFloat

/-- The numbers whose doubles are exact. -/
def exactBound : Nat := Nat.pow 2 53

/-- The parts of a whole number: its binary digits, filled up to 53. -/
def whole (number : Nat) : UnpackedFloat :=
  if isSome : 0 < number then
    .finite .positive (number * Nat.pow 2 (52 - number.log2)) (number.log2 - 52)
      (Nat.mul_pos isSome (Nat.pow_pos (by decide)))
  else .zero .positive

theorem whole_of_pos {number : Nat} (isSome : 0 < number) :
    whole number = .finite .positive (number * Nat.pow 2 (52 - number.log2)) (number.log2 - 52)
      (Nat.mul_pos isSome (Nat.pow_pos (by decide))) :=
  dif_pos isSome

/-! ### Rounding -/

theorem log2_le_of_lt {number : Nat} (exact : number < exactBound) :
    number.log2 ≤ 52 := by
  rcases Nat.eq_zero_or_pos number with rfl | isSome
  · simp
  · exact Nat.le_of_lt_succ ((Nat.log2_lt (Nat.ne_of_gt isSome)).mpr exact)

theorem log2_mul_pow {number : Nat} (isSome : 0 < number) (shift : Nat) :
    (number * Nat.pow 2 shift).log2 = number.log2 + shift := by
  have bounds := (Nat.log2_eq_iff (Nat.ne_of_gt isSome)).mp rfl
  have positive : 0 < Nat.pow 2 shift := Nat.pow_pos (by decide)
  rw [Nat.log2_eq_iff (Nat.ne_of_gt (Nat.mul_pos isSome positive))]
  constructor
  · rw [Nat.pow_add]
    exact Nat.mul_le_mul_right _ bounds.1
  · rw [Nat.add_right_comm, Nat.pow_add]
    exact Nat.mul_lt_mul_of_pos_right bounds.2 positive

theorem mul_pow_mul_pow (number first second : Nat) :
    number * Nat.pow 2 first * Nat.pow 2 second = number * Nat.pow 2 (first + second) := by
  rw [Nat.mul_assoc]
  exact congrArg _ (Nat.pow_add 2 _ _).symm

theorem repeat_shiftRightOne (mantissa shift : Nat) :
    (shift.repeat ExtendedMantissa.shiftRightOne ⟨mantissa * Nat.pow 2 shift, false, false⟩)
      = ⟨mantissa, false, false⟩ := by
  induction shift generalizing mantissa with
  | zero => exact congrArg (ExtendedMantissa.mk · false false) (Nat.mul_one mantissa)
  | succ shift inductionHypothesis =>
      have split : mantissa * Nat.pow 2 (shift + 1) = 2 * mantissa * Nat.pow 2 shift := by
        change mantissa * (Nat.pow 2 shift * 2) = _
        ring
      rw [split, Nat.repeat, inductionHypothesis, ExtendedMantissa.shiftRightOne]
      simp

/-- A number with enough bits is rounded to itself. -/
theorem roundWithAccuracy_eq {mantissa : Nat} (isSome : 0 < mantissa) (full : mantissa.log2 = 52)
    {exponent : Int} (large : -1074 ≤ exponent) (shift : Nat) :
    roundWithAccuracy Format.binary64 .positive (mantissa * Nat.pow 2 shift) (exponent - shift)
      .exact = .finite .positive mantissa exponent isSome := by
  have target (shift : Nat) : Format.binary64.targetExponent
      (totalExponent (mantissa * Nat.pow 2 shift) (exponent - shift)) = exponent := by
    rw [totalExponent, log2_mul_pow isSome, full, Format.targetExponent, Format.minExponent,
      Format.mantissaBits]
    simp only
    omega
  have shifted (shift : Nat) : shiftToTargetExponent Format.binary64
      (mantissa * Nat.pow 2 shift) (exponent - shift) .exact
        = (⟨mantissa, false, false⟩, exponent) := by
    rw [shiftToTargetExponent, target, shiftToExponent]
    have amount : (exponent - (exponent - shift)).toNat = shift := by omega
    simp only [amount]
    refine Prod.ext (repeat_shiftRightOne mantissa shift) ?_
    simp
  have again := shifted 0
  rw [Nat.cast_zero, Int.sub_zero] at again
  have same : mantissa * Nat.pow 2 0 = mantissa := Nat.mul_one mantissa
  rw [same] at again
  have rounded : ExtendedMantissa.roundedMantissa ⟨mantissa, false, false⟩ = mantissa := rfl
  rw [roundWithAccuracy, shifted]
  simp only [rounded, again]
  rw [dif_neg (Nat.ne_of_gt isSome)]

theorem log2_whole {number : Nat} (isSome : 0 < number) (exact : number < exactBound) :
    (number * Nat.pow 2 (52 - number.log2)).log2 = 52 := by
  have small := log2_le_of_lt exact
  rw [log2_mul_pow isSome]
  omega

/-- A whole number with a number of zeros behind its binary digits is rounded to its parts. -/
theorem round_eq_whole {number : Nat} (isSome : 0 < number) (exact : number < exactBound)
    (zeros : Nat) (more : 52 - number.log2 ≤ zeros) :
    roundWithAccuracy Format.binary64 .positive (number * Nat.pow 2 zeros) (-zeros) .exact
      = whole number := by
  have small := log2_le_of_lt exact
  obtain ⟨shift, rfl⟩ := Nat.exists_eq_add_of_le more
  have exponent : -((52 - number.log2 + shift : Nat) : Int) = (number.log2 - 52 : Int) - shift := by
    omega
  rw [← mul_pow_mul_pow, exponent, roundWithAccuracy_eq _ (log2_whole isSome exact) (by omega),
    whole_of_pos isSome]

/-- The same with any number of zeros, those of the double or more or fewer. -/
theorem normalize_eq_whole {number : Nat} (isSome : 0 < number) (exact : number < exactBound)
    (zeros : Nat) (sign : Sign) :
    UnpackedFloat.normalize Format.binary64 ((number * Nat.pow 2 zeros : Nat) : Int) (-zeros) sign
      = whole number := by
  have small := log2_le_of_lt exact
  have target : Format.binary64.targetExponent
      (totalExponent (number * Nat.pow 2 zeros) (-zeros)) = number.log2 - 52 := by
    rw [totalExponent, log2_mul_pow isSome, Format.targetExponent, Format.minExponent,
      Format.mantissaBits]
    simp only
    omega
  have isPositive : compare ((number * Nat.pow 2 zeros : Nat) : Int) 0 = .gt := by
    have positive : 0 < number * Nat.pow 2 zeros := Nat.mul_pos isSome (Nat.pow_pos (by decide))
    rw [Int.compare_eq_gt]
    omega
  obtain ⟨missing, amount⟩ : ∃ missing : Nat,
      ((-zeros : Int) - (number.log2 - 52)).toNat = missing := ⟨_, rfl⟩
  have exponent : (-zeros - missing : Int) = -((zeros + missing : Nat) : Int) := by omega
  rw [UnpackedFloat.normalize, isPositive]
  simp only
  rw [Int.toNat_natCast, UnpackedFloat.round, target, decreaseExponent]
  simp only [amount, Nat.shiftLeft_eq]
  rw [exponent]
  exact (congrArg (roundWithAccuracy _ _ · _ _) (mul_pow_mul_pow number zeros missing)).trans
    (round_eq_whole isSome exact (zeros + missing) (by omega))

/-! ### Operations on parts -/

theorem ofNat_eq_whole {number : Nat} (exact : number < exactBound) :
    UnpackedFloat.ofNat Format.binary64 number = whole number := by
  rcases Nat.eq_zero_or_pos number with rfl | isSome
  · rfl
  · have same : number * Nat.pow 2 0 = number := Nat.mul_one number
    have normal := normalize_eq_whole isSome exact 0 .positive
    rw [same] at normal
    exact normal

/-- A whole number times one is itself. -/
theorem mul_one_eq_whole {number : Nat} (exact : number < exactBound) :
    UnpackedFloat.mul Format.binary64 (whole number) (whole 1) = whole number := by
  rcases Nat.eq_zero_or_pos number with rfl | isSome
  · rfl
  · have small := log2_le_of_lt exact
    have one : whole 1 = .finite .positive (Nat.pow 2 52) (-52) (Nat.pow_pos (by decide)) := rfl
    rw [one, whole_of_pos isSome, UnpackedFloat.mul]
    have exponent : (number.log2 - 52 + -52 : Int) = -((52 - number.log2 + 52 : Nat) : Int) := by
      omega
    rw [exponent, mul_pow_mul_pow]
    have rounded := round_eq_whole isSome exact (52 - number.log2 + 52) (Nat.le_add_right _ _)
    rw [whole_of_pos isSome] at rounded
    exact rounded

/-- The mantissa of a whole number over a lower power of two. -/
theorem decreaseExponent_whole {number zeros : Nat} (exact : number < exactBound)
    (more : 52 - number.log2 ≤ zeros) :
    (decreaseExponent (number * Nat.pow 2 (52 - number.log2)) (number.log2 - 52) (-zeros)).1
      = number * Nat.pow 2 zeros := by
  have small := log2_le_of_lt exact
  obtain ⟨shift, rfl⟩ := Nat.exists_eq_add_of_le more
  have amount : ((number.log2 - 52 : Int) - -((52 - number.log2 + shift : Nat) : Int)).toNat
      = shift := by omega
  rw [decreaseExponent]
  simp only [amount, Nat.shiftLeft_eq]
  exact mul_pow_mul_pow number _ shift

/-- The sum of whole numbers is exact if it is small enough. -/
theorem add_whole {number number' : Nat} (exact : number + number' < exactBound) :
    UnpackedFloat.add Format.binary64 (whole number) (whole number')
      = whole (number + number') := by
  have exact' : number < exactBound := Nat.lt_of_le_of_lt (Nat.le_add_right _ _) exact
  have exact'' : number' < exactBound := Nat.lt_of_le_of_lt (Nat.le_add_left _ _) exact
  have small := log2_le_of_lt exact'
  have small' := log2_le_of_lt exact''
  have zero : whole 0 = .zero .positive := rfl
  rcases Nat.eq_zero_or_pos number with rfl | isSome
  · rw [Nat.zero_add, zero]
    rcases Nat.eq_zero_or_pos number' with rfl | isSome'
    · rfl
    · rw [whole_of_pos isSome']
      rfl
  rcases Nat.eq_zero_or_pos number' with rfl | isSome'
  · rw [Nat.add_zero, zero, whole_of_pos isSome]
    rfl
  obtain ⟨zeros, common, more, more'⟩ : ∃ zeros : Nat,
      min (number.log2 - 52 : Int) (number'.log2 - 52) = -zeros
        ∧ 52 - number.log2 ≤ zeros ∧ 52 - number'.log2 ≤ zeros :=
    ⟨max (52 - number.log2) (52 - number'.log2), by omega, by omega, by omega⟩
  have sum : (number * Nat.pow 2 zeros : Nat) + (number' * Nat.pow 2 zeros : Nat)
      = (((number + number') * Nat.pow 2 zeros : Nat) : Int) := by
    rw [Nat.add_mul]
    exact (Int.natCast_add _ _).symm
  rw [whole_of_pos isSome, whole_of_pos isSome', UnpackedFloat.add]
  simp only [common, decreaseExponent_whole exact' more, decreaseExponent_whole exact'' more',
    Sign.apply, sum]
  exact normalize_eq_whole (Nat.add_pos_left isSome _) exact zeros .positive

/-! ### Packing -/

theorem finite_congr {sign : Sign} {mantissa mantissa' : Nat} {exponent exponent' : Int}
    (isSome : 0 < mantissa) (sameMantissa : mantissa = mantissa')
    (sameExponent : exponent = exponent') :
    UnpackedFloat.finite sign mantissa exponent isSome
      = .finite sign mantissa' exponent' (sameMantissa ▸ isSome) := by
  subst sameMantissa sameExponent
  rfl

theorem toNat_one_append (mantissa : BitVec 52) :
    (1#1 ++ mantissa).toNat = 2 ^ 52 + mantissa.toNat := by
  rw [BitVec.toNat_append, ← Nat.shiftLeft_add_eq_or_of_lt mantissa.isLt, Nat.shiftLeft_eq,
    BitVec.toNat_ofNat, Nat.one_mod, Nat.one_mul]

theorem toNat_one_append_pos (mantissa : BitVec 52) : 0 < (1#1 ++ mantissa).toNat := by
  rw [toNat_one_append]
  exact Nat.add_pos_left (by decide) _

/-- What is packed as a normal number is unpacked as one. -/
theorem unpack_packComponents {exponent : BitVec 11} (isNormal : exponent ≠ 0#11)
    (isFinite : exponent ≠ -1#11) (mantissa : BitVec 52) :
    UnpackedFloat.unpack Format.binary64
        (packComponents Format.binary64 .positive exponent mantissa)
      = .finite .positive (1#1 ++ mantissa).toNat (exponent.toNat - 1075)
        (toNat_one_append_pos mantissa) := by
  rw [UnpackedFloat.unpack]
  simp only [unpackExponent_packComponents, unpackMantissa_packComponents,
    unpackSign_packComponents, Sign.ofBitVec_toBitVec, isFinite, isNormal, if_false]
  apply finite_congr _ rfl
  rw [Format.exponentBias]
  simp only
  omega

/-- A number with all bits is packed as a normal number. -/
theorem pack_finite {mantissa : Nat} (isSome : 0 < mantissa) (full : mantissa.log2 = 52)
    {exponent : Int} (low : -1074 ≤ exponent) (high : exponent ≤ 971) :
    UnpackedFloat.pack Format.binary64 (.finite .positive mantissa exponent isSome)
      = packComponents Format.binary64 .positive (BitVec.ofNat 11 (exponent + 1075).toNat)
        (BitVec.ofNat 52 mantissa) := by
  have biased : (exponent + (Format.binary64.exponentBias : Int) + ((52 : Nat) : Int)).toNat
      = (exponent + 1075).toNat := by
    rw [Format.exponentBias]
    simp only
    omega
  delta UnpackedFloat.pack
  dsimp only
  rw [biased, full, if_neg (by omega)]
  exact if_pos rfl

theorem toNat_exponentBits {exponent : Int} (low : -1074 ≤ exponent) (high : exponent ≤ 971) :
    (BitVec.ofNat 11 (exponent + 1075).toNat).toNat = (exponent + 1075).toNat := by
  rw [BitVec.toNat_ofNat]
  exact Nat.mod_eq_of_lt (by omega)

theorem toNat_mantissaBits {mantissa : Nat} (isSome : 0 < mantissa) (full : mantissa.log2 = 52) :
    (BitVec.ofNat 52 mantissa).toNat = mantissa - 2 ^ 52 := by
  have bounds := (Nat.log2_eq_iff (Nat.ne_of_gt isSome)).mp full
  rw [BitVec.toNat_ofNat, Nat.mod_eq_sub_mod bounds.1, Nat.mod_eq_of_lt (by omega)]

/-- What is packed with all bits of its mantissa is unpacked again. -/
theorem unpack_pack_finite {mantissa : Nat} (isSome : 0 < mantissa) (full : mantissa.log2 = 52)
    {exponent : Int} (low : -1074 ≤ exponent) (high : exponent ≤ 971) :
    UnpackedFloat.unpack Format.binary64
        (UnpackedFloat.pack Format.binary64 (.finite .positive mantissa exponent isSome))
      = .finite .positive mantissa exponent isSome := by
  have bounds := (Nat.log2_eq_iff (Nat.ne_of_gt isSome)).mp full
  have exponentBits := toNat_exponentBits low high
  have mantissaBits : (1#1 ++ BitVec.ofNat 52 mantissa).toNat = mantissa := by
    rw [toNat_one_append, toNat_mantissaBits isSome full]
    exact Nat.add_sub_cancel' bounds.1
  rw [pack_finite isSome full low high, unpack_packComponents]
  · exact finite_congr _ mantissaBits (by rw [exponentBits]; omega)
  · intro isZero
    rw [isZero] at exponentBits
    simp at exponentBits
    omega
  · intro isLast
    rw [isLast] at exponentBits
    simp at exponentBits
    omega

theorem unpack_pack_whole {number : Nat} (exact : number < exactBound) :
    UnpackedFloat.unpack Format.binary64 (UnpackedFloat.pack Format.binary64 (whole number))
      = whole number := by
  rcases Nat.eq_zero_or_pos number with rfl | isSome
  · exact unpack_packedZero
  · have small := log2_le_of_lt exact
    rw [whole_of_pos isSome]
    exact unpack_pack_finite _ (log2_whole isSome exact) (by omega) (by omega)

/-! ### Doubles -/

/-- The double of a whole number is packed from the parts of the number. -/
theorem ofNat_eq_pack {number : Nat} (exact : number < exactBound) :
    Float.ofNat number = .ofModel (.pack (whole number)) := by
  have one : (Float.ofBits 0x3FF0000000000000).toModel.unpack = whole 1 := by rfl
  have narrow : number.toUInt64.toNat = number :=
    Nat.mod_eq_of_lt (Nat.lt_of_lt_of_le exact (by decide))
  have converted : number.toUInt64.toFloat.toModel.unpack = whole number := by
    change UnpackedFloat.unpack _ (UnpackedFloat.pack _ (UnpackedFloat.ofNat _ _)) = _
    rw [narrow, ofNat_eq_whole exact, unpack_pack_whole exact]
  have product :
      Float.ofNat number = number.toUInt64.toFloat * Float.ofBits 0x3FF0000000000000 := by
    change Float.ofScientific number false 0 = _
    rw [Float.ofScientific, dif_pos ⟨exact, by decide⟩]
    rfl
  rw [product]
  change Float.ofModel (.pack (UnpackedFloat.mul _ _ _)) = _
  rw [converted, one, mul_one_eq_whole exact]

theorem unpack_ofNat {number : Nat} (exact : number < exactBound) :
    (Float.ofNat number).toModel.unpack = whole number := by
  rw [ofNat_eq_pack exact]
  exact unpack_pack_whole exact

/-- Whole numbers are added as doubles as they are. -/
theorem ofNat_add {number number' : Nat} (exact : number + number' < exactBound) :
    Float.ofNat number + Float.ofNat number' = Float.ofNat (number + number') := by
  rw [ofNat_eq_pack exact]
  change Float.ofModel (.pack (UnpackedFloat.add _ (Float.ofNat number).toModel.unpack
    (Float.ofNat number').toModel.unpack)) = _
  rw [unpack_ofNat (Nat.lt_of_le_of_lt (Nat.le_add_right _ _) exact),
    unpack_ofNat (Nat.lt_of_le_of_lt (Nat.le_add_left _ _) exact), add_whole exact]

/-- Whole numbers are in the order of their parts. -/
theorem compare_whole {number number' : Nat} (exact : number < exactBound)
    (exact' : number' < exactBound) :
    (whole number).compare (whole number') = some (compare number number') := by
  rcases Nat.eq_zero_or_pos number with rfl | isSome
  · rcases Nat.eq_zero_or_pos number' with rfl | isSome'
    · rfl
    · rw [whole, whole, dif_pos isSome', Nat.compare_eq_lt.mpr isSome']
      rfl
  rcases Nat.eq_zero_or_pos number' with rfl | isSome'
  · rw [whole_of_pos isSome, Nat.compare_eq_gt.mpr isSome]
    rfl
  rw [whole_of_pos isSome, whole_of_pos isSome', UnpackedFloat.compare]
  have bounds := (Nat.log2_eq_iff (Nat.ne_of_gt isSome)).mp rfl
  have bounds' := (Nat.log2_eq_iff (Nat.ne_of_gt isSome')).mp rfl
  rcases Nat.lt_trichotomy number.log2 number'.log2 with fewer | same | more
  · have less : number < number' :=
      Nat.lt_of_lt_of_le bounds.2
        (Nat.le_trans (Nat.pow_le_pow_right (by decide) fewer) bounds'.1)
    rw [Nat.compare_eq_lt.mpr less, Int.compare_eq_lt.mpr (by omega)]
    rfl
  · have positive : 0 < Nat.pow 2 (52 - number'.log2) := Nat.pow_pos (by decide)
    rw [same, Int.compare_eq_eq.mpr rfl, Ordering.eq_then]
    rcases Nat.lt_trichotomy number number' with less | rfl | greater
    · rw [Nat.compare_eq_lt.mpr less,
        Nat.compare_eq_lt.mpr ((Nat.mul_lt_mul_right positive).mpr less)]
    · rw [Nat.compare_eq_eq.mpr rfl, Nat.compare_eq_eq.mpr rfl]
    · rw [Nat.compare_eq_gt.mpr greater,
        Nat.compare_eq_gt.mpr ((Nat.mul_lt_mul_right positive).mpr greater)]
  · have less : number' < number :=
      Nat.lt_of_lt_of_le bounds'.2
        (Nat.le_trans (Nat.pow_le_pow_right (by decide) more) bounds.1)
    rw [Nat.compare_eq_gt.mpr less, Int.compare_eq_gt.mpr (by omega)]
    rfl

theorem toNat_packComponents (exponent : BitVec 11) (mantissa : BitVec 52) :
    (packComponents Format.binary64 .positive exponent mantissa).toNat
      = exponent.toNat * Nat.pow 2 52 + mantissa.toNat := by
  have front : (Sign.positive.toBitVec ++ exponent).toNat = exponent.toNat := by
    rw [BitVec.toNat_append]
    exact Nat.zero_or exponent.toNat
  rw [packComponents, BitVec.toNat_append, front, ← Nat.shiftLeft_add_eq_or_of_lt mantissa.isLt,
    Nat.shiftLeft_eq]

/-- Whole numbers are in their order as doubles, too. -/
theorem compareNumbers_ofNat {number number' : Nat} (exact : number < exactBound)
    (exact' : number' < exactBound) :
    Value.compareNumbers (Float.ofNat number) (Float.ofNat number')
      = some (compare number number') := by
  rw [Value.compareNumbers_eq, unpack_ofNat exact, unpack_ofNat exact',
    compare_whole exact exact']

/-- The double of a whole number as a dyadic number. -/
theorem ofFloat_ofNat {number : Nat} (isSome : 0 < number) (exact : number < exactBound) :
    Dyadic.ofFloat (Float.ofNat number)
      = .finite false (number * Nat.pow 2 (52 - number.log2)) (number.log2 - 52) := by
  have small := log2_le_of_lt exact
  have full := log2_whole isSome exact
  have positive : 0 < number * Nat.pow 2 (52 - number.log2) :=
    Nat.mul_pos isSome (Nat.pow_pos (by decide))
  have bounds := (Nat.log2_eq_iff (Nat.ne_of_gt positive)).mp full
  have bits : (Float.ofNat number).toBits.toNat
      = (number.log2 + 1023) * Nat.pow 2 52
        + (number * Nat.pow 2 (52 - number.log2) - 2 ^ 52) := by
    rw [ofNat_eq_pack exact]
    change (UnpackedFloat.pack Format.binary64 _).toNat = _
    rw [whole_of_pos isSome, pack_finite _ full (by omega) (by omega), toNat_packComponents,
      toNat_exponentBits (by omega) (by omega), toNat_mantissaBits positive full]
    congr 2
    omega
  generalize number * Nat.pow 2 (52 - number.log2) = mantissa at bits bounds ⊢
  have power : Nat.pow 2 52 = 4503599627370496 := rfl
  have sign : ((Float.ofNat number).toBits.toNat / Nat.pow 2 63 == 1) = false := by
    rw [bits, power, beq_eq_false_iff_ne, show Nat.pow 2 63 = 9223372036854775808 from rfl]
    omega
  have isField : (Float.ofNat number).toBits.toNat / Nat.pow 2 52 % Nat.pow 2 11
      = number.log2 + 1023 := by
    rw [bits, power, show Nat.pow 2 11 = 2048 from rfl]
    omega
  have isFraction : (Float.ofNat number).toBits.toNat % Nat.pow 2 52 = mantissa - 2 ^ 52 := by
    rw [bits, power]
    omega
  unfold Dyadic.ofFloat
  extract_lets value negative field fraction
  have isNumber : field ≠ 2047 := by
    rw [show field = _ from isField]
    omega
  have isNormal : field ≠ 0 := by
    rw [show field = _ from isField]
    omega
  rw [if_neg isNumber, if_neg isNormal, show negative = _ from sign, show field = _ from isField,
    show fraction = _ from isFraction]
  have whole : mantissa - 2 ^ 52 + Nat.pow 2 52 = mantissa := Nat.sub_add_cancel bounds.1
  have shifted : ((number.log2 + 1023 : Nat) : Int) - 1075 = number.log2 - 52 := by omega
  rw [whole, shifted]

/-! ### Numbers that are too large to be exact -/

theorem mantissa_repeat_shiftRightOne (extended : ExtendedMantissa) (shift : Nat) :
    (shift.repeat ExtendedMantissa.shiftRightOne extended).mantissa
      = extended.mantissa / 2 ^ shift := by
  induction shift with
  | zero => exact (Nat.div_one _).symm
  | succ shift inductionHypothesis =>
      rw [Nat.repeat, ExtendedMantissa.shiftRightOne, inductionHypothesis, Nat.div_div_eq_div_mul,
        ← Nat.pow_succ]

theorem le_roundedMantissa (extended : ExtendedMantissa) :
    extended.mantissa ≤ extended.roundedMantissa := by
  rw [ExtendedMantissa.roundedMantissa]
  cases extended.accuracy with
  | exact => exact Nat.le_refl _
  | inexact relative => cases relative <;> simp [Accuracy.roundToNearestEven]

/-- A mantissa with too many bits is shifted until it has all bits and no more. -/
theorem shift_full {mantissa : Nat} (large : 2 ^ 52 ≤ mantissa) {exponent : Int}
    (low : -1074 ≤ exponent) (accuracy : Accuracy) :
    ∃ shifted exponent', shiftToTargetExponent Format.binary64 mantissa exponent accuracy
        = (shifted, exponent') ∧ shifted.mantissa.log2 = 52 ∧ exponent ≤ exponent' := by
  have isSome : mantissa ≠ 0 := by
    rintro rfl
    exact absurd large (by decide)
  have bits : 52 ≤ mantissa.log2 := (Nat.le_log2 isSome).mpr large
  have target : Format.binary64.targetExponent (totalExponent mantissa exponent)
      = exponent + (mantissa.log2 - 52 : Nat) := by
    rw [totalExponent, Format.targetExponent, Format.minExponent, Format.mantissaBits]
    simp only
    omega
  have amount : (exponent + (mantissa.log2 - 52 : Nat) - exponent).toNat = mantissa.log2 - 52 := by
    omega
  have start : (ExtendedMantissa.ofMantissaAndAccuracy mantissa accuracy).mantissa = mantissa := by
    cases accuracy with
    | exact => rfl
    | inexact relative => cases relative <;> rfl
  have bounds := (Nat.log2_eq_iff isSome).mp rfl
  have split : 52 + (mantissa.log2 - 52) = mantissa.log2 := Nat.add_sub_cancel' bits
  rw [shiftToTargetExponent, target, shiftToExponent]
  simp only [amount]
  refine ⟨_, _, rfl, ?_, Int.le_add_of_nonneg_right (Int.natCast_nonneg _)⟩
  change (Nat.repeat ExtendedMantissa.shiftRightOne _
    (ExtendedMantissa.ofMantissaAndAccuracy mantissa accuracy)).mantissa.log2 = 52
  have positive : 0 < 2 ^ (mantissa.log2 - 52) := Nat.pow_pos (by decide)
  have shifted : mantissa / 2 ^ (mantissa.log2 - 52) ≠ 0 := by
    apply Nat.ne_of_gt
    apply Nat.div_pos _ positive
    exact Nat.le_trans (Nat.pow_le_pow_right (by decide) (Nat.sub_le _ _)) bounds.1
  rw [mantissa_repeat_shiftRightOne, start, Nat.log2_eq_iff shifted,
    Nat.le_div_iff_mul_le positive, Nat.div_lt_iff_lt_mul positive, ← Nat.pow_add,
    ← Nat.pow_add, split, Nat.add_right_comm, split]
  exact bounds

/-- A number with enough bits is rounded to one with all bits and no more. -/
theorem roundWithAccuracy_full {mantissa : Nat} (large : 2 ^ 52 ≤ mantissa) {exponent : Int}
    (low : -1074 ≤ exponent) (accuracy : Accuracy) :
    ∃ mantissa' exponent', ∃ isSome : 0 < mantissa',
      roundWithAccuracy Format.binary64 .positive mantissa exponent accuracy
          = .finite .positive mantissa' exponent' isSome
        ∧ mantissa'.log2 = 52 ∧ -1074 ≤ exponent' := by
  obtain ⟨shifted, exponent', isShifted, full, later⟩ := shift_full large low accuracy
  have large' : 2 ^ 52 ≤ shifted.roundedMantissa := by
    apply Nat.le_trans _ (le_roundedMantissa shifted)
    have isSome : shifted.mantissa ≠ 0 := by
      intro isZero
      rw [isZero] at full
      exact absurd full (by decide)
    exact ((Nat.log2_eq_iff isSome).mp full).1
  obtain ⟨shifted', exponent'', isShifted', full', later'⟩ :=
    shift_full large' (Int.le_trans low later) .exact
  have isSome : shifted'.mantissa ≠ 0 := by
    intro isZero
    rw [isZero] at full'
    exact absurd full' (by decide)
  refine ⟨shifted'.mantissa, exponent'', Nat.pos_of_ne_zero isSome, ?_, full', by omega⟩
  rw [roundWithAccuracy, isShifted]
  simp only [isShifted']
  exact dif_neg isSome

/-- What has all bits is packed as a number above zero. -/
theorem compare_unpack_pack {mantissa : Nat} (isSome : 0 < mantissa) (full : mantissa.log2 = 52)
    {exponent : Int} (low : -1074 ≤ exponent) (sign : Sign) :
    (UnpackedFloat.unpack Format.binary64 (UnpackedFloat.pack Format.binary64
      (.finite .positive mantissa exponent isSome))).compare (.zero sign) = some .gt := by
  by_cases high : exponent ≤ 971
  · rw [unpack_pack_finite isSome full low high]
    rfl
  · have packed : UnpackedFloat.pack Format.binary64 (.finite .positive mantissa exponent isSome)
        = packedInfinity Format.binary64 .positive := by
      have biased : (exponent + (Format.binary64.exponentBias : Int) + ((52 : Nat) : Int)).toNat
          = (exponent + 1075).toNat := by
        rw [Format.exponentBias]
        simp only
        omega
      delta UnpackedFloat.pack
      dsimp only
      rw [biased]
      exact if_pos (by omega)
    have unpacked : UnpackedFloat.unpack Format.binary64 (packedInfinity Format.binary64 .positive)
        = .infinity .positive := by rfl
    rw [packed, unpacked]
    rfl

/-- The double of a whole number is zero for zero only. -/
theorem compare_ofNat_zero {number : Nat} (isSome : 0 < number) (sign : Sign) :
    (Float.ofNat number).toModel.unpack.compare (.zero sign) = some .gt := by
  rcases Nat.lt_or_ge number exactBound with exact | large
  · rw [unpack_ofNat exact, whole_of_pos isSome]
    rfl
  · change (Float.ofScientific number false 0).toModel.unpack.compare _ = _
    rw [Float.ofScientific, dif_neg (fun fast => Nat.not_lt.mpr large fast.1)]
    change (UnpackedFloat.unpack _ (UnpackedFloat.pack _
      (UnpackedFloat.ofScientific _ number (Int.ofNat 0)))).compare _ = _
    rw [UnpackedFloat.ofScientific, dif_neg (Nat.ne_of_gt isSome), if_neg (by decide), if_neg,
      if_pos (by decide)]
    · have enough : 2 ^ 52
          ≤ number <<< Format.binary64.mantissaBits * 10 ^ (Int.ofNat 0).toNat := by
        change 2 ^ 52 ≤ number <<< 53 * 1
        rw [Nat.mul_one, Nat.shiftLeft_eq]
        exact Nat.le_trans (Nat.pow_le_pow_right (by decide) (by decide))
          (Nat.le_mul_of_pos_left _ isSome)
      have low : -1074 ≤ -(Format.binary64.mantissaBits : Int) + 0 := by decide
      obtain ⟨mantissa, exponent, positive, rounded, full, low⟩ :=
        roundWithAccuracy_full enough low .exact
      rw [UnpackedFloat.mul]
      change (UnpackedFloat.unpack _ (UnpackedFloat.pack _
        (roundWithAccuracy _ .positive _ _ _))).compare _ = _
      rw [rounded]
      exact compare_unpack_pack positive full low sign
    · have bits : (0 : Int) ≤ 2 ^ Format.binary64.exponentBits := by decide
      have length : (0 : Int) ≤ number.log2 := Int.natCast_nonneg _
      have zero : Int.ofNat 0 = 0 := rfl
      omega

theorem ofNat_beq_zero (number : Nat) : (Float.ofNat number == 0) = decide (number = 0) := by
  have zero : (0 : Float).toModel.unpack = .zero .positive := by rfl
  rcases Nat.eq_zero_or_pos number with rfl | isSome
  · rfl
  · rw [decide_eq_false (Nat.ne_of_gt isSome), Bool.eq_false_iff]
    intro equal
    have compared := beq_iff_compare.mp equal
    rw [zero, compare_ofNat_zero isSome] at compared
    cases compared

/-- The double of a whole number is not below zero. -/
theorem ofNat_beq_neg_one (number : Nat) : (Float.ofNat number == -1) = false := by
  have negative : (-1 : Float).toModel.unpack
      = .finite .negative (Nat.pow 2 52) (-52) (Nat.pow_pos (by decide)) := by rfl
  have positive : Positive (Float.ofNat number).toModel.unpack :=
    positive_unpack (unsigned_ofScientific number false 0)
  rw [Bool.eq_false_iff]
  intro equal
  have compared := beq_iff_compare.mp equal
  rw [negative] at compared
  generalize (Float.ofNat number).toModel.unpack = parts at positive compared
  cases positive <;> cases compared

end AccessRules.Decimal
