import AccessRules.Proofs.Value.Number

/-!
# The comparisons agree

Loose equality asks for the kinds of both its sides, the order for what they stand for. It makes no
difference to equality which side is which, values that are strictly equal are equal, values that
are equal and not nullish are equal in the order as well, and the order taken the other way round
comes out the other way round.
-/

namespace AccessRules.Value

/-! ### Strict equality -/

mutual

theorem strictEquals_comm (value value' : Value) :
    value.strictEquals value' = value'.strictEquals value := by
  cases value with
  | undefined | null => cases value' <;> rfl
  | bool | number | string =>
      cases value' <;> simp only [strictEquals]
      exact BEq.comm
  | array items =>
      cases value' <;> simp only [strictEquals]
      exact sameItems_comm items _
  | object fields =>
      cases value' <;> simp only [strictEquals]
      exact sameFields_comm fields _

theorem sameItems_comm (items items' : List Value) :
    sameItems items items' = sameItems items' items := by
  cases items with
  | nil => cases items' <;> rfl
  | cons item rest =>
      cases items' with
      | nil => rfl
      | cons item' rest' =>
          rw [sameItems, sameItems, strictEquals_comm item item', sameItems_comm rest rest']

theorem sameFields_comm (fields fields' : List (String × Value)) :
    sameFields fields fields' = sameFields fields' fields := by
  match fields, fields' with
  | [], [] => rfl
  | [], _ :: _ => rfl
  | _ :: _, [] => rfl
  | (key, value) :: rest, (key', value') :: rest' =>
      rw [sameFields, sameFields, strictEquals_comm value value', sameFields_comm rest rest',
        BEq.comm (a := key)]

end

theorem isNullish_of_strictEquals {value value' : Value}
    (equal : value.strictEquals value' = true) : value.isNullish = value'.isNullish := by
  cases value <;> cases value' <;> first | rfl | cases equal

mutual

/-- Values that are strictly equal have one text. -/
theorem toText_of_strictEquals {value value' : Value} (equal : value.strictEquals value' = true) :
    value.toText = value'.toText := by
  cases value with
  | undefined =>
      cases value' with
      | undefined => rfl
      | null | bool | number | string | array | object => cases equal
  | null =>
      cases value' with
      | null => rfl
      | undefined | bool | number | string | array | object => cases equal
  | bool truth =>
      cases value' with
      | bool truth' =>
          rw [strictEquals, beq_iff_eq] at equal
          rw [equal]
      | undefined | null | number | string | array | object => cases equal
  | number double =>
      cases value' with
      | number double' =>
          rw [strictEquals] at equal
          exact render_of_beq equal
      | undefined | null | bool | string | array | object => cases equal
  | string text =>
      cases value' with
      | string text' =>
          rw [strictEquals, beq_iff_eq] at equal
          rw [equal]
      | undefined | null | bool | number | array | object => cases equal
  | array items =>
      cases value' with
      | array items' =>
          rw [strictEquals] at equal
          rw [toText, toText, itemTexts_of_sameItems equal]
      | undefined | null | bool | number | string | object => cases equal
  | object fields =>
      cases value' with
      | object fields' => rfl
      | undefined | null | bool | number | string | array => cases equal

theorem itemTexts_of_sameItems {items items' : List Value}
    (equal : sameItems items items' = true) : itemTexts items = itemTexts items' := by
  cases items with
  | nil =>
      cases items' with
      | nil => rfl
      | cons => cases equal
  | cons item rest =>
      cases items' with
      | nil => cases equal
      | cons item' rest' =>
          rw [sameItems, Bool.and_eq_true] at equal
          obtain ⟨first, others⟩ := equal
          rw [itemTexts, itemTexts, isNullish_of_strictEquals first, toText_of_strictEquals first,
            itemTexts_of_sameItems others]

end

/-! ### How two values meet -/

/-- Whether the value is a text. -/
def isString : Value → Bool
  | .string _ => true
  | _ => false

/-- What loose equality and the order take two values for. -/
inductive Meets (value value' : Value) : Prop
  | nullish : value.isNullish = true ∨ value'.isNullish = true → Meets value value'
  | numbers : value.isNullish = false → value'.isNullish = false →
      (value.concatenates && value'.concatenates) = false → Meets value value'
  /-- One is a string, and the other is one or stands for one. -/
  | texts : value.concatenates = true → value'.concatenates = true →
      value.isString = true ∨ value'.isString = true → Meets value value'
  /-- Both are arrays or objects. -/
  | structures : value.concatenates = true → value'.concatenates = true →
      value.isString = false → value'.isString = false → Meets value value'

section

variable {value value' : Value}

theorem meets (value value' : Value) : Meets value value' := by
  cases isNone : value.isNullish with
  | true => exact .nullish (.inl isNone)
  | false =>
      cases isNone' : value'.isNullish with
      | true => exact .nullish (.inr isNone')
      | false =>
          cases joins : value.concatenates && value'.concatenates with
          | false => exact .numbers isNone isNone' joins
          | true =>
              rw [Bool.and_eq_true] at joins
              by_cases isText : value.isString = true ∨ value'.isString = true
              · exact .texts joins.1 joins.2 isText
              · rw [not_or, Bool.not_eq_true, Bool.not_eq_true] at isText
                exact .structures joins.1 joins.2 isText.1 isText.2

theorem looseEquals_of_nullish (isNone : value.isNullish = true ∨ value'.isNullish = true) :
    value.looseEquals value' = (value.isNullish && value'.isNullish) := by
  unfold looseEquals
  rcases isNone with isNone | isNone
  · rw [isNone]
    cases value'.isNullish <;> rfl
  · rw [isNone]
    cases value.isNullish <;> rfl

theorem looseEquals_of_texts (joins : value.concatenates = true)
    (joins' : value'.concatenates = true)
    (isText : value.isString = true ∨ value'.isString = true) :
    value.looseEquals value' = (value.toText == value'.toText) := by
  cases value with
  | undefined | null | bool | number => cases joins
  | string text =>
      cases value' with
      | undefined | null | bool | number => cases joins'
      | string => rfl
      | array | object => exact BEq.comm
  | array | object =>
      cases value' with
      | undefined | null | bool | number => cases joins'
      | string => rfl
      | array | object => rcases isText with isText | isText <;> cases isText

theorem looseEquals_of_structures (joins : value.concatenates = true)
    (joins' : value'.concatenates = true) (noText : value.isString = false)
    (noText' : value'.isString = false) :
    value.looseEquals value' = value.strictEquals value' := by
  cases value with
  | undefined | null | bool | number => cases joins
  | string => cases noText
  | array | object =>
      cases value' with
      | undefined | null | bool | number => cases joins'
      | string => cases noText'
      | array | object => rfl

/-! ### Agreement -/

theorem looseEquals_comm (value value' : Value) :
    value.looseEquals value' = value'.looseEquals value := by
  cases meets value value' with
  | nullish isNone =>
      rw [looseEquals_of_nullish isNone, looseEquals_of_nullish isNone.symm]
      exact Bool.and_comm _ _
  | numbers isSome isSome' asNumbers =>
      rw [looseEquals_eq_numbers isSome isSome' asNumbers,
        looseEquals_eq_numbers isSome' isSome (by rw [Bool.and_comm, asNumbers])]
      exact BEq.comm
  | texts joins joins' isText =>
      rw [looseEquals_of_texts joins joins' isText, looseEquals_of_texts joins' joins isText.symm]
      exact BEq.comm
  | structures joins joins' noText noText' =>
      rw [looseEquals_of_structures joins joins' noText noText',
        looseEquals_of_structures joins' joins noText' noText]
      exact strictEquals_comm value value'

/-- The numbers of two booleans or two numbers are equal if they are. -/
theorem beq_of_strictEquals (isSome : value.isNullish = false)
    (asNumbers : (value.concatenates && value'.concatenates) = false)
    (equal : value.strictEquals value' = true) : (value.toNumber == value'.toNumber) = true := by
  cases value with
  | undefined | null => cases isSome
  | bool truth =>
      cases value' with
      | bool truth' =>
          rw [strictEquals, beq_iff_eq] at equal
          rw [equal]
          cases truth' <;> decide
      | undefined | null | number | string | array | object => cases equal
  | number double =>
      cases value' with
      | number double' =>
          rw [strictEquals] at equal
          exact equal
      | undefined | null | bool | string | array | object => cases equal
  | string | array | object =>
      cases value' with
      | string | array | object => cases asNumbers
      | undefined | null | bool | number => cases equal

theorem looseEquals_of_strictEquals (equal : value.strictEquals value' = true) :
    value.looseEquals value' = true := by
  cases meets value value' with
  | nullish isNone =>
      have sameKind := isNullish_of_strictEquals equal
      rw [looseEquals_of_nullish isNone, ← sameKind, Bool.and_self]
      rcases isNone with isNone | isNone
      · exact isNone
      · rw [sameKind, isNone]
  | numbers isSome isSome' asNumbers =>
      rw [looseEquals_eq_numbers isSome isSome' asNumbers]
      exact beq_of_strictEquals isSome asNumbers equal
  | texts joins joins' isText =>
      rw [looseEquals_of_texts joins joins' isText, toText_of_strictEquals equal]
      exact beq_self_eq_true _
  | structures joins joins' noText noText' =>
      rw [looseEquals_of_structures joins joins' noText noText']
      exact equal

/-- What equals a number has its number in comparisons as well. -/
theorem toNumber_toPrimitive_of_beq {number : Float}
    (equal : (value.toNumber == number) = true) : value.toPrimitive.toNumber = value.toNumber := by
  apply toNumber_toPrimitive
  by_contra isLone
  rw [Bool.not_eq_false] at isLone
  rw [toNumber_of_isLoneNullish isLone] at equal
  obtain ⟨noNan, _⟩ := Float.beq_iff_ne_nan_and_eq.mp equal
  exact noNan rfl

theorem compare?_of_looseEquals (isSome : value.isNullish = false)
    (isSome' : value'.isNullish = false) (equal : value.looseEquals value' = true) :
    value.compare? value' = some .eq := by
  have order_of_texts (joins : value.concatenates = true) (joins' : value'.concatenates = true)
      (sameText : value.toText = value'.toText) : value.compare? value' = some .eq := by
    rw [compare?_eq_texts joins joins', sameText, Std.compare_self]
  cases meets value value' with
  | nullish isNone =>
      rw [isSome, isSome'] at isNone
      rcases isNone with isNone | isNone <;> cases isNone
  | numbers _ _ asNumbers =>
      rw [looseEquals_eq_numbers isSome isSome' asNumbers] at equal
      rw [compare?_eq_numbers asNumbers, toNumber_toPrimitive_of_beq equal,
        toNumber_toPrimitive_of_beq (BEq.symm equal)]
      exact compareNumbers_of_beq equal
  | texts joins joins' isText =>
      rw [looseEquals_of_texts joins joins' isText, beq_iff_eq] at equal
      exact order_of_texts joins joins' equal
  | structures joins joins' noText noText' =>
      rw [looseEquals_of_structures joins joins' noText noText'] at equal
      exact order_of_texts joins joins' (toText_of_strictEquals equal)

theorem compare?_swap (value value' : Value) :
    value'.compare? value = (value.compare? value').map Ordering.swap := by
  cases joins : value.concatenates && value'.concatenates with
  | false =>
      have joins' : (value'.concatenates && value.concatenates) = false := by
        rw [Bool.and_comm, joins]
      rw [compare?_eq_numbers joins, compare?_eq_numbers joins']
      exact compareNumbers_swap _ _
  | true =>
      rw [Bool.and_eq_true] at joins
      rw [compare?_eq_texts joins.1 joins.2, compare?_eq_texts joins.2 joins.1,
        Std.OrientedOrd.eq_swap, Option.map_some]

end

/-- The comparisons of two values agree. -/
structure Coherent (value value' : Value) : Prop where
  comm : value.looseEquals value' = value'.looseEquals value
  ofStrict : value.strictEquals value' = true → value.looseEquals value' = true
  inOrder : value.looseEquals value' = true → value.isNullish = false → value'.isNullish = false →
    value.compare? value' = some .eq
      ∧ applyBinary .lessOrEqual value value' = .bool true
      ∧ applyBinary .greaterOrEqual value value' = .bool true
  swapped : value'.compare? value = (value.compare? value').map Ordering.swap

/-- The comparisons of any two values agree. -/
theorem coherent (value value' : Value) : Coherent value value' where
  comm := looseEquals_comm value value'
  ofStrict := looseEquals_of_strictEquals
  inOrder := by
    intro equal isSome isSome'
    have inOrder := compare?_of_looseEquals isSome isSome' equal
    refine ⟨inOrder, ?_, ?_⟩
    · rw [applyBinary, inOrder]
      rfl
    · rw [applyBinary, inOrder]
      rfl
  swapped := compare?_swap value value'

end AccessRules.Value
