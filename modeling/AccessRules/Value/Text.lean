import AccessRules.Decimal.Layout
import AccessRules.Value.Basic

/-!
# The text of a value

Two forms: the one that concatenation and property keys use, in which an array is its items joined
by commas, and the one that diagnostics use, in which strings are quoted and arrays bracketed.
-/

namespace AccessRules.Value

/-- Numbers are written without an exponent from a millionth up to, and not with, `1e21`; both zeros
look alike. -/
def numberLayout : Decimal.Layout where
  leastPositional := -6
  greatestPositional := 20
  wholeEnd := ""
  positiveExponent := "+"
  zero := "0"
  negativeZero := "0"
  nan := "NaN"
  infinity := "Infinity"
  tie := .up

mutual

/-- The form used by concatenation and property keys. -/
def toText : Value → String
  | .undefined => "undefined"
  | .null => "null"
  | .bool truth => if truth then "true" else "false"
  | .number double => numberLayout.render double
  | .string text => text
  | .array items => String.intercalate "," (itemTexts items)
  | .object _ => "[object Object]"

/-- The texts of an array's items; a nullish item has none. -/
def itemTexts : List Value → List String
  | [] => []
  | item :: rest => (if item.isNullish then "" else item.toText) :: itemTexts rest

end

mutual

/-- The form used by diagnostics. Quotes inside a string are left as they are. -/
def display : Value → String
  | .string text => "\"" ++ text ++ "\""
  | .array items => "[" ++ String.intercalate ", " (displays items) ++ "]"
  | value => value.toText

/-- The diagnostic forms of an array's items. -/
def displays : List Value → List String
  | [] => []
  | item :: rest => item.display :: displays rest

end

end AccessRules.Value
