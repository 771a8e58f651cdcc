/-!
# Values

The values that rules compute with. They are the values of JSON and, beside them, `undefined`: what
a property that is not there, a record that is not loaded or a slot that is not given reads as.
-/

namespace AccessRules

/-- A value of the rule language. The fields of an object stand in the order of their keys, and no
key stands there twice; `Value.ofFields` brings them into this order. -/
inductive Value where
  | undefined
  | null
  | bool (truth : Bool)
  | number (double : Float)
  | string (text : String)
  | array (items : List Value)
  | object (fields : List (String × Value))

namespace Value

instance : Inhabited Value := ⟨.undefined⟩

/-- The object with these fields, which may come in any order. -/
def ofFields (fields : List (String × Value)) : Value :=
  .object (fields.mergeSort fun field field' => field.1 ≤ field'.1)

/-- The name of a value's type in diagnostics: arrays are objects. -/
def typeName : Value → String
  | .undefined => "undefined"
  | .null => "null"
  | .bool _ => "boolean"
  | .number _ => "number"
  | .string _ => "string"
  | .array _ => "object"
  | .object _ => "object"

/-- Whether a value is `undefined` or `null`. -/
def isNullish : Value → Bool
  | .undefined => true
  | .null => true
  | _ => false

/-- Whether a value counts as true in a condition. -/
def truthy : Value → Bool
  | .undefined => false
  | .null => false
  | .bool truth => truth
  | .number double => !(double == 0) && !double.isNaN
  | .string text => !text.isEmpty
  | .array _ => true
  | .object _ => true

end Value

end AccessRules
