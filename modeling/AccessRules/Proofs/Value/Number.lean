import AccessRules.Code.Method
import AccessRules.Proofs.Decimal.Order
import AccessRules.Proofs.Expr.SideBySide

/-!
# The number of a value

Arithmetic and equality take a value for its number. The order takes it for the number of what it
stands for there: an array or an object stands for its text. Both ways lead to one number, except
for an array whose only item is nullish: its text is empty, which counts as zero, but its number is
read from the name of the item, and there is none.
-/

namespace AccessRules

/-! ### Texts that are no number -/

/-- A literal is written in nothing but digits, points, signs and the letter of an exponent. -/
theorem Decimal.isNumberPart_of_scanLiteral? {literal : Literal} {text : List Char}
    (scanned : scanLiteral? text = some (literal, [])) :
    ∀ character ∈ text, Lexeme.isNumberPart character = true := by
  obtain ⟨front, spells, whole⟩ := Lexeme.scanLiteral?_spells scanned
  rw [List.append_nil] at whole
  rw [← whole]
  cases spells with
  | number mantissa exponent =>
      rw [List.forall_mem_append]
      exact ⟨Lexeme.isNumberPart_of_mantissa mantissa, Lexeme.isNumberPart_of_exponent exponent⟩

theorem Decimal.isNumberPart_of_ofText? {text : List Char} {number : Float}
    (reads : ofText? text = some number) :
    ∀ character ∈ text, Lexeme.isNumberPart character = true := by
  unfold ofText? at reads
  simp only at reads
  split at reads
  · rw [List.forall_mem_cons]
    split at reads
    · rename_i scanned
      exact ⟨rfl, isNumberPart_of_scanLiteral? scanned⟩
    · cases reads
  · rw [List.forall_mem_cons]
    split at reads
    · rename_i scanned
      exact ⟨rfl, isNumberPart_of_scanLiteral? scanned⟩
    · cases reads
  · split at reads
    · rename_i scanned
      exact isNumberPart_of_scanLiteral? scanned
    · cases reads

theorem Text.mem_skipBlanks {character : Char} (noBlank : isBlank character = false)
    {text : List Char} (among : character ∈ text) : character ∈ skipBlanks text := by
  induction text with
  | nil => cases among
  | cons first rest inductionHypothesis =>
      rw [skipBlanks, List.dropWhile_cons]
      split
      · rename_i blank
        rcases List.mem_cons.mp among with rfl | behind
        · rw [noBlank] at blank
          cases blank
        · exact inductionHypothesis behind
      · exact among

/-- Only blanks are lost at the ends of a text. -/
theorem Text.mem_trimChars {character : Char} (noBlank : isBlank character = false)
    {text : List Char} (among : character ∈ text) : character ∈ trimChars text := by
  apply List.mem_reverse.mpr
  apply mem_skipBlanks noBlank
  apply List.mem_reverse.mpr
  exact mem_skipBlanks noBlank among

namespace Value

/-- A text with a character in it that stands in no number is none. -/
theorem numberOfText_eq_nan {text : String} {character : Char} (among : character ∈ text.toList)
    (noBlank : Text.isBlank character = false) (noPart : Lexeme.isNumberPart character = false)
    (noLetter : character ∉ "Infinity".toList) : numberOfText text = nan := by
  have spelled := Text.mem_trimChars noBlank among
  have noSign : ∀ sign, Lexeme.isNumberPart sign = true →
      character ∉ sign :: "Infinity".toList := by
    intro sign isPart isLetter
    rcases List.mem_cons.mp isLetter with rfl | isLetter
    · rw [noPart] at isPart
      cases isPart
    · exact noLetter isLetter
  have differs : ∀ letters : List Char, character ∉ letters →
      Text.trimChars text.toList ≠ letters := by
    rintro letters missing rfl
    exact missing spelled
  unfold numberOfText
  simp only
  rw [if_neg, if_neg, if_neg]
  · cases reads : Decimal.ofText? (Text.trimChars text.toList) with
    | none => rfl
    | some number =>
        have isPart := Decimal.isNumberPart_of_ofText? reads character spelled
        rw [noPart] at isPart
        cases isPart
  · exact differs _ (noSign '-' rfl)
  · exact not_or.mpr ⟨differs _ noLetter, differs _ (noSign '+' rfl)⟩
  · rw [List.isEmpty_iff]
    exact differs [] List.not_mem_nil

/-! ### The texts of arrays and objects -/

/-- Whether the value is an array whose only item is nullish. -/
def isLoneNullish : Value → Bool
  | .array [item] => item.isNullish
  | _ => false

theorem toText_item {item : Value} (isSome : item.isNullish = false) :
    (Value.array [item]).toText = item.toText := by
  rw [toText, itemTexts, itemTexts, isSome, String.intercalate_singleton]
  rfl

theorem toText_loneNullish {item : Value} (isNone : item.isNullish = true) :
    (Value.array [item]).toText = "" := by
  rw [toText, itemTexts, itemTexts, isNone, String.intercalate_singleton]
  rfl

theorem comma_mem_toText (first second : Value) (rest : List Value) :
    ',' ∈ (Value.array (first :: second :: rest)).toText.toList := by
  rw [toText, itemTexts, itemTexts, String.intercalate_cons_cons, String.toList_append,
    String.toList_append]
  apply List.mem_append_left
  exact List.mem_append_right _ List.mem_cons_self

/-- The number of an array is that of its text. -/
theorem numberOfText_toText {items : List Value}
    (isOther : (Value.array items).isLoneNullish = false) :
    numberOfText (Value.array items).toText = (Value.array items).toNumber := by
  match items with
  | [] => rfl
  | [item] => rw [toText_item isOther, toNumber]
  | first :: second :: rest =>
      exact numberOfText_eq_nan (comma_mem_toText first second rest) rfl rfl (by decide)

theorem toNumber_toPrimitive {value : Value} (isOther : value.isLoneNullish = false) :
    value.toPrimitive.toNumber = value.toNumber := by
  cases value with
  | array items => exact numberOfText_toText isOther
  | object fields =>
      have opens : '[' ∈ "[object Object]".toList := List.mem_cons_self
      exact numberOfText_eq_nan opens rfl rfl (by decide)
  | undefined | null | bool | number | string => rfl

theorem exists_item_of_isLoneNullish {value : Value} (isLone : value.isLoneNullish = true) :
    ∃ item, value = .array [item] ∧ item.isNullish = true := by
  unfold isLoneNullish at isLone
  split at isLone
  · exact ⟨_, rfl, isLone⟩
  · cases isLone

theorem toNumber_of_isLoneNullish {value : Value} (isLone : value.isLoneNullish = true) :
    value.toNumber = nan := by
  obtain ⟨item, rfl, isNone⟩ := exists_item_of_isLoneNullish isLone
  cases item with
  | undefined | null => rfl
  | bool | number | string | array | object => cases isNone

theorem toNumber_toPrimitive_of_isLoneNullish {value : Value}
    (isLone : value.isLoneNullish = true) : value.toPrimitive.toNumber = 0 := by
  obtain ⟨item, rfl, isNone⟩ := exists_item_of_isLoneNullish isLone
  rw [toPrimitive, toText_loneNullish isNone]
  rfl

/-! ### What operators take a value for -/

theorem toPrimitive_of_concatenates {value : Value} (joins : value.concatenates = true) :
    value.toPrimitive = .string value.toText := by
  cases value with
  | string | array | object => rfl
  | undefined | null | bool | number => cases joins

theorem concatenates_of_toPrimitive {value : Value} {text : String}
    (standsFor : value.toPrimitive = .string text) : value.concatenates = true := by
  cases value with
  | string | array | object => rfl
  | undefined | null | bool | number => cases standsFor

theorem compare?_eq_texts {left right : Value} (joins : left.concatenates = true)
    (joins' : right.concatenates = true) :
    left.compare? right = some (compare left.toText right.toText) := by
  rw [compare?, toPrimitive_of_concatenates joins, toPrimitive_of_concatenates joins']

theorem compare?_eq_numbers {left right : Value}
    (asNumbers : (left.concatenates && right.concatenates) = false) :
    left.compare? right
      = compareNumbers left.toPrimitive.toNumber right.toPrimitive.toNumber := by
  unfold compare?
  split
  · rename_i isText isText'
    rw [concatenates_of_toPrimitive isText, concatenates_of_toPrimitive isText'] at asNumbers
    cases asNumbers
  · rfl

theorem looseEquals_eq_numbers {left right : Value} (isSome : left.isNullish = false)
    (isSome' : right.isNullish = false)
    (asNumbers : (left.concatenates && right.concatenates) = false) :
    left.looseEquals right = (left.toNumber == right.toNumber) := by
  cases left with
  | undefined | null => cases isSome
  | bool =>
      cases right with
      | undefined | null => cases isSome'
      | bool | number | string | array | object => rfl
  | number =>
      cases right with
      | undefined | null => cases isSome'
      | bool | number | string => rfl
      | array | object => exact BEq.comm
  | string | array | object =>
      cases right with
      | undefined | null => cases isSome'
      | bool | number => rfl
      | string | array | object => cases asNumbers

/-- Whether the operator takes both its operands for their numbers. -/
def takesNumbers (op : BinaryOp) (left right : Value) : Bool :=
  match op with
  | .multiply => true
  | .divide => true
  | .remainder => true
  | .subtract => true
  | .add => !(left.concatenates || right.concatenates)
  | .less => !(left.concatenates && right.concatenates)
  | .lessOrEqual => !(left.concatenates && right.concatenates)
  | .greater => !(left.concatenates && right.concatenates)
  | .greaterOrEqual => !(left.concatenates && right.concatenates)
  | .looseEqual =>
      !(left.isNullish || right.isNullish) && !(left.concatenates && right.concatenates)
  | .looseUnequal =>
      !(left.isNullish || right.isNullish) && !(left.concatenates && right.concatenates)
  | .strictEqual => false
  | .strictUnequal => false
  | .and => false
  | .or => false

/-- The value has this number wherever it is taken for a number. -/
structure CountsAs (value : Value) (number : Float) : Prop where
  converted : value.toNumber = number
  /-- The order takes the value for what it stands for. -/
  compared : value.toPrimitive.toNumber = number
  /-- The number of an array is that of its text. -/
  ofText : ∀ items, value = .array items → numberOfText value.toText = number
  plus : applyUnary .plus value = .number number
  negate : applyUnary .negate value = .number (-number)
  /-- The number may stand in the value's place on the left of an operator. -/
  left : ∀ op other, takesNumbers op value other = true →
    applyBinary op value other = applyBinary op (.number number) other
  /-- The number may stand in the value's place on the right of an operator. -/
  right : ∀ op other, takesNumbers op other value = true →
    applyBinary op other value = applyBinary op other (.number number)

@[simp]
theorem concatenates_number (number : Float) : (Value.number number).concatenates = false :=
  rfl

@[simp]
theorem isNullish_number (number : Float) : (Value.number number).isNullish = false :=
  rfl

/-- An operator that takes its operands for their numbers does not tell operands of the same numbers
apart. -/
theorem applyBinary_congr {op : BinaryOp} {left left' right right' : Value}
    (takes : takesNumbers op left right = true) (takes' : takesNumbers op left' right' = true)
    (converted : left.toNumber = left'.toNumber ∧ right.toNumber = right'.toNumber)
    (compared : left.toPrimitive.toNumber = left'.toPrimitive.toNumber
      ∧ right.toPrimitive.toNumber = right'.toPrimitive.toNumber) :
    applyBinary op left right = applyBinary op left' right' := by
  obtain ⟨converted, converted'⟩ := converted
  obtain ⟨compared, compared'⟩ := compared
  cases op with
  | multiply | divide | remainder | subtract => rw [applyBinary, applyBinary, converted, converted']
  | add =>
      rw [takesNumbers, Bool.not_eq_true'] at takes takes'
      simp only [applyBinary, add, takes, takes', Bool.false_eq_true, if_false, converted,
        converted']
  | less | lessOrEqual | greater | greaterOrEqual =>
      rw [takesNumbers, Bool.not_eq_true'] at takes takes'
      rw [applyBinary, applyBinary, compare?_eq_numbers takes, compare?_eq_numbers takes',
        compared, compared']
  | looseEqual | looseUnequal =>
      simp only [takesNumbers, Bool.and_eq_true, Bool.not_eq_true', Bool.or_eq_false_iff]
        at takes takes'
      rw [applyBinary, applyBinary, looseEquals_eq_numbers takes.1.1 takes.1.2 takes.2,
        looseEquals_eq_numbers takes'.1.1 takes'.1.2 takes'.2, converted, converted']
  | strictEqual | strictUnequal | and | or => cases takes

section

variable {value : Value} {number : Float} {op : BinaryOp} {other : Value}

theorem takesNumbers_left (takes : takesNumbers op value other = true) :
    takesNumbers op (.number number) other = true := by
  cases op with
  | multiply | divide | remainder | subtract => rfl
  | less | lessOrEqual | greater | greaterOrEqual => rfl
  | add | looseEqual | looseUnequal =>
      simp only [takesNumbers, Bool.and_eq_true, Bool.not_eq_true', Bool.or_eq_false_iff] at takes
      simp [takesNumbers, takes]
  | strictEqual | strictUnequal | and | or => cases takes

theorem takesNumbers_right (takes : takesNumbers op other value = true) :
    takesNumbers op other (.number number) = true := by
  cases op with
  | multiply | divide | remainder | subtract => rfl
  | less | lessOrEqual | greater | greaterOrEqual => simp [takesNumbers]
  | add | looseEqual | looseUnequal =>
      simp only [takesNumbers, Bool.and_eq_true, Bool.not_eq_true', Bool.or_eq_false_iff] at takes
      simp [takesNumbers, takes]
  | strictEqual | strictUnequal | and | or => cases takes

theorem countsAs_of_toNumber (converted : value.toNumber = number)
    (compared : value.toPrimitive.toNumber = number) : CountsAs value number where
  converted := converted
  compared := compared
  ofText := by
    rintro items rfl
    exact compared
  plus := by rw [applyUnary, converted]
  negate := by rw [applyUnary, converted]
  left _ _ takes :=
    applyBinary_congr takes (takesNumbers_left takes) ⟨converted, rfl⟩ ⟨compared, rfl⟩
  right _ _ takes :=
    applyBinary_congr takes (takesNumbers_right takes) ⟨rfl, converted⟩ ⟨rfl, compared⟩

end

/-- Every value has one number wherever it is taken for one, except for an array whose only item is
nullish. -/
theorem exists_countsAs_iff (value : Value) :
    (∃ number, CountsAs value number) ↔ value.isLoneNullish = false := by
  constructor
  · rintro ⟨number, counts⟩
    by_contra isLone
    rw [Bool.not_eq_false] at isLone
    have isNan := counts.converted
    have isZero := counts.compared
    rw [toNumber_of_isLoneNullish isLone] at isNan
    rw [toNumber_toPrimitive_of_isLoneNullish isLone, ← isNan] at isZero
    exact absurd isZero (by decide)
  · intro isOther
    exact ⟨value.toNumber, countsAs_of_toNumber rfl (toNumber_toPrimitive isOther)⟩

/-- The array of `null` is no number, yet it compares as zero. -/
theorem loneNull_twoNumbers :
    (Value.array [.null]).toNumber.isNaN = true
      ∧ (Value.array [.null]).toPrimitive.toNumber = 0
      ∧ applyBinary .lessOrEqual (.array [.null]) (.number 0) = .bool true
      ∧ applyBinary .lessOrEqual (applyUnary .plus (.array [.null])) (.number 0) = .bool false := by
  refine ⟨?_, rfl, rfl, rfl⟩
  decide

end Value

end AccessRules
