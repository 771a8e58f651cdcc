/-!
# JSON documents

Objects keep the order of their keys. A number remembers whether it was written as an integer that
fits 64 bits, because options take no other and because it is written back that way.
-/

namespace AccessRules

/-- A number of a document. -/
inductive JsonNumber where
  /-- An integer from 0 to `2 ^ 64 - 1`. -/
  | natural (magnitude : Nat)
  /-- The integer `-magnitude`, from `-2 ^ 63` to -1. -/
  | negative (magnitude : Nat)
  | double (value : Float)

/-- A JSON value. The keys of an object are distinct unless it was read without merging them. -/
inductive Json where
  | null
  | bool (truth : Bool)
  | number (numeral : JsonNumber)
  | string (text : String)
  | array (items : List Json)
  | object (fields : List (String × Json))

/-- The double nearest to a number. -/
def JsonNumber.toFloat : JsonNumber → Float
  | .natural magnitude => Float.ofNat magnitude
  | .negative magnitude => -Float.ofNat magnitude
  | .double value => value

namespace Json

instance : Inhabited Json := ⟨.null⟩

/-- The name of a value's type in diagnostics. -/
def typeName : Json → String
  | .null => "null"
  | .bool _ => "boolean"
  | .number _ => "number"
  | .string _ => "string"
  | .array _ => "array"
  | .object _ => "object"

/-- The fields with one of them set: in its place if the key is there, at the end otherwise. -/
def setField (key : String) (value : Json) : List (String × Json) → List (String × Json)
  | [] => [(key, value)]
  | (first, old) :: rest =>
      if first = key then (key, value) :: rest else (first, old) :: setField key value rest

mutual

/-- The value with repeated keys merged: the first place and the last value win. -/
def merge : Json → Json
  | .array items => .array (mergeItems items)
  | .object fields => .object (mergeFields [] fields)
  | value => value

/-- Merging inside every item. -/
def mergeItems : List Json → List Json
  | [] => []
  | item :: rest => item.merge :: mergeItems rest

/-- Fields set one after the other. -/
def mergeFields (merged : List (String × Json)) : List (String × Json) → List (String × Json)
  | [] => merged
  | (key, value) :: rest => mergeFields (setField key value.merge merged) rest

end

end Json

end AccessRules
