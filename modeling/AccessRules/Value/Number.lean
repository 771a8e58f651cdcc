import AccessRules.Decimal.Reading
import AccessRules.Text.Blank
import AccessRules.Value.Text

/-!
# The number of a value

What arithmetic and comparison with a number take a value for. A string is the number it spells; an
array is the number of its only item's text, and zero if it is empty.
-/

namespace AccessRules.Value

/-- Not a number. -/
def nan : Float := Decimal.Dyadic.toFloat .nan

/-- The number a text spells, blanks at its ends aside: nothing is zero, infinity is spelled out,
and no other letter than an exponent's may stand in it. -/
def numberOfText (text : String) : Float :=
  let spelled := Text.trimChars text.toList
  if spelled.isEmpty then 0
  else if spelled = "Infinity".toList ∨ spelled = "+Infinity".toList then
    Decimal.Dyadic.toFloat (.infinite false)
  else if spelled = "-Infinity".toList then Decimal.Dyadic.toFloat (.infinite true)
  else (Decimal.ofText? spelled).getD nan

/-- The number a value is taken for. -/
def toNumber : Value → Float
  | .undefined => nan
  | .null => 0
  | .bool truth => if truth then 1 else 0
  | .number double => double
  | .string text => numberOfText text
  | .array [] => 0
  | .array [item] => numberOfText item.toText
  | .array _ => nan
  | .object _ => nan

end AccessRules.Value
