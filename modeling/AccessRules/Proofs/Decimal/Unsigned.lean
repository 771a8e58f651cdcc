import AccessRules.Decimal.Reading

/-!
# The doubles of literals

A literal is written without a sign, and the double nearest to it has none: the operations that it
is computed by never set the sign bit of a result if it is set in none of their operands.
-/

namespace AccessRules.Decimal

open Float.Model Float.Model.UnpackedFloat

/-- The sign bit of the double is not set. -/
def Unsigned (number : Float) : Prop :=
  number.toBits.toNat < Nat.pow 2 63

/-- The parts of a double whose sign bit is not set. What is no number has no sign. -/
inductive Positive : UnpackedFloat → Prop
  | notANumber : Positive .notANumber
  | infinity : Positive (.infinity .positive)
  | zero : Positive (.zero .positive)
  | finite {mantissa : Nat} {exponent : Int} (isSome : 0 < mantissa) :
      Positive (.finite .positive mantissa exponent isSome)

/-! ### Packing -/

theorem toNat_packComponents_lt (exponent : BitVec 11) (mantissa : BitVec 52) :
    (packComponents Format.binary64 .positive exponent mantissa).toNat < Nat.pow 2 63 := by
  have small : (Sign.positive.toBitVec ++ exponent).toNat < Nat.pow 2 11 := by
    rw [BitVec.toNat_append]
    exact Nat.or_lt_two_pow (by decide) exponent.isLt
  rw [packComponents, BitVec.toNat_append]
  apply Nat.or_lt_two_pow
  · rw [Nat.shiftLeft_eq]
    exact (Nat.mul_lt_mul_right (by decide)).mpr small
  · exact Nat.lt_of_lt_of_le mantissa.isLt (by decide)

theorem toNat_pack_lt {parts : UnpackedFloat} (positive : Positive parts) :
    (UnpackedFloat.pack Format.binary64 parts).toNat < Nat.pow 2 63 := by
  cases positive with
  | notANumber => exact toNat_packComponents_lt _ _
  | infinity => exact toNat_packComponents_lt _ _
  | zero => exact toNat_packComponents_lt _ _
  | finite =>
      delta UnpackedFloat.pack
      dsimp only
      split
      · exact toNat_packComponents_lt _ _
      · split <;> exact toNat_packComponents_lt _ _

theorem unsigned_pack {parts : UnpackedFloat} (positive : Positive parts) :
    Unsigned (.ofModel (.pack parts)) :=
  toNat_pack_lt positive

theorem ofBitVec_unpackSign (bits : BitVec Format.binary64.numBits)
    (small : bits.toNat < Nat.pow 2 63) : Sign.ofBitVec (unpackSign bits) = .positive := by
  have isZero : unpackSign bits = 0#1 := by
    apply BitVec.eq_of_toNat_eq
    change (BitVec.cast _ (BitVec.extractLsb _ _ _)).toNat = _
    rw [BitVec.toNat_cast, BitVec.extractLsb_toNat, Nat.shiftRight_eq_div_pow]
    exact congrArg (· % 2) (Nat.div_eq_of_lt small)
  rw [isZero]
  rfl

/-- A number is positive if it is so in both cases of its definition. -/
theorem positive_dite {condition : Prop} [Decidable condition] {first : condition → UnpackedFloat}
    {second : ¬ condition → UnpackedFloat} (positive : ∀ holds, Positive (first holds))
    (positive' : ∀ fails, Positive (second fails)) : Positive (dite condition first second) := by
  by_cases holds : condition
  · rw [dif_pos holds]
    exact positive holds
  · rw [dif_neg holds]
    exact positive' holds

theorem positive_unpack_of_lt (bits : BitVec Format.binary64.numBits)
    (small : bits.toNat < Nat.pow 2 63) :
    Positive (UnpackedFloat.unpack Format.binary64 bits) := by
  -- `split` would rewrite under the proof that a mantissa is not zero.
  delta UnpackedFloat.unpack
  dsimp only
  rw [ofBitVec_unpackSign bits small]
  refine iteInduction (fun _ => ?special) (fun _ => ?number)
  case special => exact iteInduction (fun _ => .infinity) (fun _ => .notANumber)
  case number =>
    refine iteInduction (fun _ => ?small) (fun _ => .finite _)
    exact positive_dite (fun _ => .zero) (fun _ => .finite _)

theorem positive_unpack {number : Float} (unsigned : Unsigned number) :
    Positive number.toModel.unpack :=
  positive_unpack_of_lt number.toModel.toBits.toBitVec unsigned

/-! ### Rounding -/

theorem positive_roundWithAccuracy (format : Format) (mantissa : Nat) (exponent : Int)
    (accuracy : Accuracy) :
    Positive (roundWithAccuracy format .positive mantissa exponent accuracy) := by
  delta roundWithAccuracy
  dsimp only
  exact positive_dite (fun _ => .zero) (fun _ => .finite _)

theorem positive_mul (format : Format) {left right : UnpackedFloat} (positive : Positive left)
    (positive' : Positive right) : Positive (UnpackedFloat.mul format left right) := by
  cases positive with
  | notANumber => exact .notANumber
  | infinity =>
      cases positive' with
      | notANumber | zero => exact .notANumber
      | infinity | finite => exact .infinity
  | zero =>
      cases positive' with
      | notANumber | infinity => exact .notANumber
      | zero | finite => exact .zero
  | finite =>
      cases positive' with
      | notANumber => exact .notANumber
      | infinity => exact .infinity
      | zero => exact .zero
      | finite => exact positive_roundWithAccuracy _ _ _ _

theorem positive_div (format : Format) {left right : UnpackedFloat} (positive : Positive left)
    (positive' : Positive right) : Positive (UnpackedFloat.div format left right) := by
  cases positive with
  | notANumber => exact .notANumber
  | infinity =>
      cases positive' with
      | notANumber | infinity => exact .notANumber
      | zero | finite => exact .infinity
  | zero =>
      cases positive' with
      | notANumber | zero => exact .notANumber
      | infinity | finite => exact .zero
  | finite =>
      cases positive' with
      | notANumber => exact .notANumber
      | infinity => exact .zero
      | zero => exact .infinity
      | finite => exact positive_roundWithAccuracy _ _ _ _

theorem positive_ofNat (format : Format) (number : Nat) :
    Positive (UnpackedFloat.ofNat format number) := by
  rw [UnpackedFloat.ofNat, UnpackedFloat.ofInt, UnpackedFloat.normalize]
  split
  · rename_i isNegative
    rw [Int.compare_eq_lt] at isNegative
    omega
  · exact .zero
  · exact positive_roundWithAccuracy _ _ _ _

theorem positive_ofScientific (format : Format) (coefficient : Nat) (power : Int) :
    Positive (UnpackedFloat.ofScientific format coefficient power) := by
  rw [UnpackedFloat.ofScientific]
  refine positive_dite (fun _ => .zero) (fun _ => ?_)
  refine iteInduction (fun _ => .infinity) (fun _ => ?_)
  refine iteInduction (fun _ => .zero) (fun _ => ?_)
  refine iteInduction (fun _ => ?scaledUp) (fun _ => ?scaledDown)
  case scaledUp => exact positive_mul _ (.finite _) (.finite _)
  case scaledDown => exact positive_div _ (.finite _) (.finite _)

/-! ### Literals -/

theorem unsigned_mul {left right : Float} (unsigned : Unsigned left) (unsigned' : Unsigned right) :
    Unsigned (left * right) :=
  unsigned_pack (positive_mul _ (positive_unpack unsigned) (positive_unpack unsigned'))

theorem unsigned_div {left right : Float} (unsigned : Unsigned left) (unsigned' : Unsigned right) :
    Unsigned (left / right) :=
  unsigned_pack (positive_div _ (positive_unpack unsigned) (positive_unpack unsigned'))

theorem unsigned_powerOfTen : ∀ power ∈ Float.exactlyRepresentablePowersOfTen, Unsigned power := by
  unfold Unsigned
  decide

/-- What is written without a sign has none. -/
theorem unsigned_ofScientific (coefficient : Nat) (negative : Bool) (power : Nat) :
    Unsigned (Float.ofScientific coefficient negative power) := by
  rw [Float.ofScientific]
  split
  · rename_i fast
    have whole : Unsigned coefficient.toUInt64.toFloat := unsigned_pack (positive_ofNat _ _)
    have inside : power < Float.exactlyRepresentablePowersOfTen.size := Nat.lt_succ_of_le fast.2
    have tens := unsigned_powerOfTen _ (Array.getElem_mem inside)
    simp only
    split
    · exact unsigned_div whole tens
    · exact unsigned_mul whole tens
  · exact unsigned_pack (positive_ofScientific _ _ _)

theorem Literal.unsigned_toFloat (literal : Literal) : Unsigned literal.toFloat :=
  unsigned_ofScientific _ _ _

end AccessRules.Decimal
