import AccessRules.Decimal.Reading
import AccessRules.Value.Basic

/-!
# Properties of values

Strings and arrays have a length and items by position; objects have their fields; no other value
but `undefined` and `null` refuses to be asked. Positions in a string count code points.
-/

namespace AccessRules.Value

/-- The positions an item can have: those of a 64-bit machine. -/
def positionBound : Nat := UInt64.size

/-- The position a property key spells. -/
def position? (key : String) : Option Nat :=
  Decimal.natural? positionBound key.toList

/-- The property of a value under a key; a nullish value has none and is no value to ask. -/
def member? (value : Value) (key : String) : Option Value :=
  match value with
  | .undefined => none
  | .null => none
  | .bool _ => some .undefined
  | .number _ => some .undefined
  | .string text =>
      if key = "length" then some (.number (Float.ofNat text.length))
      else
        match (position? key).bind (text.toList[·]?) with
        | some character => some (.string (String.singleton character))
        | none => some .undefined
  | .array items =>
      if key = "length" then some (.number (Float.ofNat items.length))
      else some (((position? key).bind (items[·]?)).getD .undefined)
  | .object fields => some ((fields.lookup key).getD .undefined)

end AccessRules.Value
