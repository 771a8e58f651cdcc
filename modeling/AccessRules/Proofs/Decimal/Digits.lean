import AccessRules.Decimal.Layout
import AccessRules.Decimal.Reading
import AccessRules.Text.Blank

/-!
# Digits

What is a digit is nothing else, and numbers are written in digits.
-/

namespace AccessRules.Decimal

theorem ne_of_isDigit {digit other : Char} (is : isDigit digit = true)
    (isNot : isDigit other = false) : digit ≠ other := by
  rintro rfl
  rw [is] at isNot
  cases isNot

/-- The ASCII characters that can be seen are no blanks. -/
theorem isBlank_eq_false_of_visible {character : Char} (low : 33 ≤ character.toNat)
    (high : character.toNat ≤ 126) : Text.isBlank character = false := by
  simp only [Text.isBlank, Text.wideBlanks, Bool.or_eq_false_iff, Bool.and_eq_false_iff,
    beq_eq_false_iff_ne, decide_eq_false_iff_not, List.contains_eq_mem, List.mem_cons,
    List.not_mem_nil, or_false]
  omega

theorem isBlank_eq_false_of_isDigit {digit : Char} (isDigit : Decimal.isDigit digit = true) :
    Text.isBlank digit = false := by
  simp only [Decimal.isDigit, Bool.and_eq_true, decide_eq_true_eq, Char.le_def,
    UInt32.le_iff_toNat_le] at isDigit
  have low : 48 ≤ digit.toNat := isDigit.1
  have high : digit.toNat ≤ 57 := isDigit.2
  exact isBlank_eq_false_of_visible (by omega) (by omega)

theorem isDigit_of_mem_digits {number : Nat} {digit : Char}
    (among : digit ∈ Layout.digits number) : isDigit digit = true := by
  have isDigit := Nat.isDigit_of_mem_toDigits (by decide) (by decide) among
  rw [Char.isDigit, Bool.and_eq_true, decide_eq_true_eq, decide_eq_true_eq] at isDigit
  rw [Decimal.isDigit, Bool.and_eq_true, decide_eq_true_eq, decide_eq_true_eq]
  exact isDigit

theorem digits_ne_nil (number : Nat) : Layout.digits number ≠ [] := by
  intro isNil
  rw [Layout.digits, Nat.toDigits_eq_if (by decide)] at isNil
  split at isNil
  · cases isNil
  · exact List.append_ne_nil_of_right_ne_nil _ (List.cons_ne_nil _ _) isNil

/-- The digits of a number stand for it. -/
theorem ofDigits_digits (number : Nat) : ofDigits (Layout.digits number) = number := by
  rw [ofDigits, Layout.digits]
  simp only [Nat.mul_comm _ 10]
  rw [← Nat.ofDigitChars_eq_foldl]
  exact Nat.ofDigitChars_ten_toDigits

/-- Digits are read as the number they stand for, if it is below the bound. -/
theorem natural?_of_digits {digits : List Char} (bound : Nat) (isSome : digits ≠ [])
    (areDigits : ∀ digit ∈ digits, isDigit digit = true) :
    natural? bound digits = if ofDigits digits < bound then some (ofDigits digits) else none := by
  obtain ⟨first, others, rfl⟩ := List.exists_cons_of_ne_nil isSome
  have allDigits : (first :: others).all isDigit = true := List.all_eq_true.mpr areDigits
  unfold natural?
  split
  · rename_i same
    cases same
    exact absurd (areDigits '+' List.mem_cons_self) (by decide)
  · simp only [List.isEmpty_cons, allDigits, Bool.not_true, Bool.or_self, Bool.false_eq_true,
      if_false]

theorem lt_of_natural? {bound number : Nat} {text : List Char}
    (isNumber : natural? bound text = some number) : number < bound := by
  simp only [natural?, Option.ite_none_left_eq_some, Option.ite_none_right_eq_some,
    Option.some.injEq] at isNumber
  obtain ⟨_, inRange, rfl⟩ := isNumber
  exact inRange

end AccessRules.Decimal
