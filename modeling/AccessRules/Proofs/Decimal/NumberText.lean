import AccessRules.Proofs.Decimal.Digits
import AccessRules.Proofs.Decimal.Unsigned
import AccessRules.Value.Text

/-!
# The text of a number without a sign

The text of a double whose sign bit is not set begins with no sign. If the double can be read back
from that text, it is read back as a literal.
-/

namespace AccessRules.Decimal

/-! ### How the text begins -/

/-- The text begins with a digit. -/
def BeginsWithDigit (text : String) : Prop :=
  ∃ digit, text.toList.head? = some digit ∧ isDigit digit = true

theorem beginsWithDigit_positional (wholeEnd : String) (decimal : Scaled) :
    BeginsWithDigit (Layout.positional wholeEnd decimal) := by
  obtain ⟨leading, others, figures⟩ :=
    List.exists_cons_of_ne_nil (digits_ne_nil decimal.coefficient)
  have isLeading : isDigit leading = true :=
    isDigit_of_mem_digits (figures ▸ List.mem_cons_self)
  unfold Layout.positional
  simp only
  split
  · refine ⟨leading, ?_, isLeading⟩
    rw [String.toList_append, String.toList_ofList, figures]
    rfl
  split
  · refine ⟨'0', ?_, rfl⟩
    rw [String.toList_append]
    rfl
  · rename_i longer
    obtain ⟨more, isMore⟩ :=
      Nat.exists_eq_succ_of_ne_zero (Nat.sub_ne_zero_of_lt (Nat.lt_of_not_le longer))
    refine ⟨leading, ?_, isLeading⟩
    rw [isMore, String.toList_append, String.toList_append, String.toList_ofList, figures]
    rfl

theorem beginsWithDigit_scientific (positiveExponent : String) (decimal : Scaled) :
    BeginsWithDigit (Layout.scientific positiveExponent decimal) := by
  unfold Layout.scientific
  split
  · rename_i none
    exact absurd none (digits_ne_nil _)
  · rename_i leading rest figures
    refine ⟨leading, ?_, isDigit_of_mem_digits (figures ▸ List.mem_cons_self)⟩
    simp only [String.toList_append, String.toList_singleton]
    rfl

/-! ### No sign -/

/-- The text begins with a plus or a minus sign. -/
def HasSign (text : List Char) : Prop :=
  text.head? = some '-' ∨ text.head? = some '+'

instance (text : List Char) : Decidable (HasSign text) :=
  inferInstanceAs (Decidable (_ ∨ _))

theorem BeginsWithDigit.not_hasSign {text : String} (begins : BeginsWithDigit text) :
    ¬ HasSign text.toList := by
  obtain ⟨digit, isHead, isDigit⟩ := begins
  rw [HasSign, isHead, Option.some.injEq, Option.some.injEq, not_or]
  exact ⟨ne_of_isDigit isDigit rfl, ne_of_isDigit isDigit rfl⟩

theorem ofFloat_of_unsigned {number : Float} (unsigned : Unsigned number) :
    (∃ mantissa exponent, Dyadic.ofFloat number = .finite false mantissa exponent)
      ∨ Dyadic.ofFloat number = .infinite false ∨ Dyadic.ofFloat number = .nan := by
  have noSign : (number.toBits.toNat / Nat.pow 2 63 == 1) = false := by
    rw [Nat.div_eq_of_lt unsigned]
    rfl
  unfold Dyadic.ofFloat
  simp only [noSign]
  split
  · split
    · exact .inr (.inl rfl)
    · exact .inr (.inr rfl)
  · left
    split <;> exact ⟨_, _, rfl⟩

theorem not_hasSign_render {number : Float} (unsigned : Unsigned number) :
    ¬ HasSign (Value.numberLayout.render number).toList := by
  rcases ofFloat_of_unsigned unsigned with ⟨mantissa, exponent, isFinite⟩ | isInfinite | isNan
  · simp only [Layout.render, isFinite, Bool.false_eq_true, if_false]
    split
    · decide
    · rw [String.empty_append]
      split
      · exact (beginsWithDigit_positional _ _).not_hasSign
      · exact (beginsWithDigit_scientific _ _).not_hasSign
  · simp only [Layout.render, isInfinite]
    decide
  · simp only [Layout.render, isNan]
    decide

/-- What is read from a text without a sign is a literal. -/
theorem exists_literal_of_ofText? {text : List Char} {number : Float} (noSign : ¬ HasSign text)
    (reads : ofText? text = some number) :
    ∃ literal, scanLiteral? text = some (literal, []) ∧ literal.toFloat = number := by
  unfold ofText? at reads
  simp only at reads
  split at reads
  · exact absurd (.inl rfl) noSign
  · exact absurd (.inr rfl) noSign
  · split at reads
    · rename_i literal scanned
      cases reads
      exact ⟨literal, scanned, rfl⟩
    · cases reads

end AccessRules.Decimal
