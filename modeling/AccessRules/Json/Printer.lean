import AccessRules.Decimal.Layout
import AccessRules.Json.Basic

/-!
# Writing JSON

The compact form: nothing between the tokens, keys in their order, and no more escaped than has to
be.
-/

namespace AccessRules.Json

/-- A hexadecimal digit, small letters. -/
def hexDigit (digit : Nat) : Char :=
  Char.ofNat (if digit < 10 then '0'.toNat + digit else 'a'.toNat + (digit - 10))

/-- A character inside a string: quotes, backslashes and control characters are escaped, the last
ones by a letter if they have one. -/
def escape (character : Char) : List Char :=
  match character with
  | '"' => ['\\', '"']
  | '\\' => ['\\', '\\']
  | '\x08' => ['\\', 'b']
  | '\x0c' => ['\\', 'f']
  | '\n' => ['\\', 'n']
  | '\r' => ['\\', 'r']
  | '\t' => ['\\', 't']
  | character =>
      if character.toNat < 0x20 then
        ['\\', 'u', '0', '0', hexDigit (character.toNat / 16), hexDigit (character.toNat % 16)]
      else [character]

/-- A string in quotes. -/
def quote (text : String) : String :=
  "\"" ++ String.ofList (text.toList.flatMap escape) ++ "\""

/-- Doubles always show a point or an exponent, so that they read back as doubles. -/
def doubleLayout : Decimal.Layout where
  leastPositional := -5
  greatestPositional := 15
  wholeEnd := ".0"
  positiveExponent := ""
  zero := "0.0"
  negativeZero := "-0.0"
  nan := "null"
  infinity := "null"
  tie := .even

/-- The text of a number. -/
def numberText : JsonNumber → String
  | .natural magnitude => String.ofList (Decimal.Layout.digits magnitude)
  | .negative magnitude => "-" ++ String.ofList (Decimal.Layout.digits magnitude)
  | .double value => doubleLayout.render value

mutual

/-- The compact text of a document. -/
def compact : Json → String
  | .null => "null"
  | .bool truth => if truth then "true" else "false"
  | .number numeral => numberText numeral
  | .string text => quote text
  | .array items => "[" ++ String.intercalate "," (compactItems items) ++ "]"
  | .object fields => "\x7b" ++ String.intercalate "," (compactFields fields) ++ "\x7d"

/-- The texts of the items. -/
def compactItems : List Json → List String
  | [] => []
  | item :: rest => item.compact :: compactItems rest

/-- The texts of the fields. -/
def compactFields : List (String × Json) → List String
  | [] => []
  | (key, value) :: rest => (quote key ++ ":" ++ value.compact) :: compactFields rest

end

end AccessRules.Json
