import AccessRules.Value.Number

/-!
# Comparing values

Strict equality compares arrays and objects by their contents. Loose equality first brings numbers,
strings and booleans to a common kind. The order of two values is that of their texts if both are
strings, arrays or objects, and that of their numbers otherwise.
-/

namespace AccessRules.Value

mutual

/-- Strict equality: same kind and same contents. -/
def strictEquals : Value → Value → Bool
  | .undefined, .undefined => true
  | .null, .null => true
  | .bool truth, .bool truth' => truth == truth'
  | .number double, .number double' => double == double'
  | .string text, .string text' => text == text'
  | .array items, .array items' => sameItems items items'
  | .object fields, .object fields' => sameFields fields fields'
  | _, _ => false

/-- Whether two lists hold equal items at equal positions. -/
def sameItems : List Value → List Value → Bool
  | [], [] => true
  | item :: rest, item' :: rest' => strictEquals item item' && sameItems rest rest'
  | _, _ => false

/-- Whether two lists of fields in the order of their keys hold the same keys with equal values. -/
def sameFields : List (String × Value) → List (String × Value) → Bool
  | [], [] => true
  | (key, value) :: rest, (key', value') :: rest' =>
      key == key' && strictEquals value value' && sameFields rest rest'
  | _, _ => false

end

/-- Equality under which not-a-number equals itself. -/
def sameValue : Value → Value → Bool
  | .number double, .number double' => (double.isNaN && double'.isNaN) || double == double'
  | value, value' => strictEquals value value'

/-- Loose equality. A nullish value equals nullish values only; booleans count as numbers; a string
and a number compare as numbers; an array or object compares with a string by its text and with a
number by its number; values of one kind compare strictly. -/
def looseEquals (value value' : Value) : Bool :=
  if value.isNullish && value'.isNullish then true
  else if value.isNullish || value'.isNullish then false
  else
    match value, value' with
    | .bool _, _ => value.toNumber == value'.toNumber
    | _, .bool _ => value.toNumber == value'.toNumber
    | .number double, .string _ => double == value'.toNumber
    | .string _, .number double => value.toNumber == double
    | .array _, .string text => value.toText == text
    | .object _, .string text => value.toText == text
    | .string text, .array _ => value'.toText == text
    | .string text, .object _ => value'.toText == text
    | .array _, .number double => value.toNumber == double
    | .object _, .number double => value.toNumber == double
    | .number double, .array _ => value'.toNumber == double
    | .number double, .object _ => value'.toNumber == double
    | _, _ => strictEquals value value'

/-- The order of two doubles; there is none with not-a-number. -/
def compareNumbers (double double' : Float) : Option Ordering :=
  if double < double' then some .lt
  else if double == double' then some .eq
  else if double' < double then some .gt
  else none

/-- What the order of values compares: an array or object stands for its text. -/
def toPrimitive : Value → Value
  | .array items => .string (Value.array items).toText
  | .object fields => .string (Value.object fields).toText
  | value => value

/-- The order of two values: two texts by code points, anything else by number. -/
def compare? (value value' : Value) : Option Ordering :=
  match value.toPrimitive, value'.toPrimitive with
  | .string text, .string text' => some (compare text text')
  | primitive, primitive' => compareNumbers primitive.toNumber primitive'.toNumber

end AccessRules.Value
