import AccessRules.Json.Basic
import AccessRules.Value.Basic

/-!
# Documents as values

Every JSON document is a value of the rule language; its numbers become doubles.
-/

namespace AccessRules.Value

mutual

/-- The value a document stands for. -/
def ofJson : Json → Value
  | .null => .null
  | .bool truth => .bool truth
  | .number numeral => .number numeral.toFloat
  | .string text => .string text
  | .array items => .array (ofItems items)
  | .object fields => .ofFields (ofEntries fields)

/-- The values of the items. -/
def ofItems : List Json → List Value
  | [] => []
  | item :: rest => ofJson item :: ofItems rest

/-- The values of the fields. -/
def ofEntries : List (String × Json) → List (String × Value)
  | [] => []
  | (key, value) :: rest => (key, ofJson value) :: ofEntries rest

end

end AccessRules.Value
