import Mathlib
import AccessRules.Value.Comparison

/-!
# The order of doubles

Two doubles are compared by their parts. What is compared the other way round comes out the other
way round, and equal doubles are the same but for the sign of a zero, so they have one text.
-/

namespace AccessRules.Decimal

open Float.Model

/-! ### The parts of two doubles -/

/-- Parts compared the other way round come out the other way round. -/
theorem compare_swap (parts parts' : UnpackedFloat) :
    parts'.compare parts = (parts.compare parts').map Ordering.swap := by
  cases parts with
  | notANumber => cases parts' <;> rfl
  | infinity sign =>
      cases parts' with
      | notANumber => rfl
      | infinity sign' => cases sign <;> cases sign' <;> rfl
      | zero | finite => cases sign <;> rfl
  | zero sign =>
      cases parts' with
      | notANumber | zero => rfl
      | infinity sign' | finite sign' => cases sign' <;> rfl
  | finite sign mantissa exponent =>
      cases parts' with
      | notANumber => rfl
      | infinity sign' => cases sign' <;> rfl
      | zero => cases sign <;> rfl
      | finite sign' mantissa' exponent' =>
          -- Only numbers of one sign are compared further, and those below zero backwards.
          cases sign <;> cases sign' <;>
            simp [UnpackedFloat.compare, Ordering.swap_then, Int.compare_swap, Nat.compare_swap]

theorem lt_iff_compare {number number' : Float} :
    number < number' ↔ number.toModel.unpack.compare number'.toModel.unpack = some .lt := by
  change decide (number.toModel < number'.toModel) = true ↔ _
  rw [decide_eq_true_eq]
  change UnpackedFloat.lt _ _ = true ↔ _
  rw [UnpackedFloat.lt, beq_iff_eq]

theorem beq_iff_compare {number number' : Float} :
    (number == number') = true ↔
      number.toModel.unpack.compare number'.toModel.unpack = some .eq := by
  change UnpackedFloat.beq _ _ = true ↔ _
  rw [UnpackedFloat.beq, beq_iff_eq]

end AccessRules.Decimal

namespace AccessRules.Value

/-! ### Two doubles -/

theorem compareNumbers_eq (number number' : Float) :
    compareNumbers number number'
      = number.toModel.unpack.compare number'.toModel.unpack := by
  have backwards := Decimal.compare_swap number.toModel.unpack number'.toModel.unpack
  unfold compareNumbers
  simp only [Decimal.lt_iff_compare, Decimal.beq_iff_compare, backwards]
  rcases number.toModel.unpack.compare number'.toModel.unpack with _ | _ | _ | _ <;> rfl

theorem compareNumbers_swap (number number' : Float) :
    compareNumbers number' number = (compareNumbers number number').map Ordering.swap := by
  rw [compareNumbers_eq, compareNumbers_eq]
  exact Decimal.compare_swap _ _

theorem compareNumbers_of_beq {number number' : Float} (equal : (number == number') = true) :
    compareNumbers number number' = some .eq := by
  rw [compareNumbers_eq]
  exact Decimal.beq_iff_compare.mp equal

/-- Equal doubles have one text: nothing but the sign of a zero tells them apart. -/
theorem render_of_beq {number number' : Float} (equal : (number == number') = true) :
    numberLayout.render number = numberLayout.render number' := by
  have zero : numberLayout.render 0 = "0" := by decide
  have negativeZero : numberLayout.render (-0) = "0" := by decide
  obtain ⟨_, _, rfl | ⟨rfl, rfl⟩ | ⟨rfl, rfl⟩⟩ := Float.beq_iff_ne_nan_and_eq.mp equal
  · rfl
  · rw [zero, negativeZero]
  · rw [zero, negativeZero]

end AccessRules.Value

