import AccessRules.Decimal.Reading
import AccessRules.Json.Basic

/-!
# Reading JSON

The grammar of RFC 8259 without exception: no comments, no trailing commas, no leading zeros, no raw
control characters in strings, no lone surrogates, nothing but blanks after the value. A value may
nest arrays and objects 127 deep, and a number must not exceed the largest double. Where a value is
only skipped, its form alone counts.
-/

namespace AccessRules.Json.Parser

/-- What is left of a text when something has been taken off its front. -/
abbrev Rest (text : List Char) := { rest : List Char // rest.length < text.length }

/-- What is left of a part of a text is left of the text. -/
def Rest.ofPart {text part : List Char} (shorter : part.length ≤ text.length) (rest : Rest part) :
    Rest text :=
  ⟨rest.1, Nat.lt_of_lt_of_le rest.2 shorter⟩

/-- A reader takes a value off the front of a text or refuses. -/
abbrev Reader (α : Type) := (text : List Char) → Option (α × Rest text)

/-- What a value is read for: to be kept, or only to find its end. What is skipped may hold lone
surrogates, and its numbers may be of any size; what is read for it stands for nothing. -/
inductive Purpose where
  | keep
  | skip
deriving DecidableEq, Repr

/-- A blank between the tokens of JSON. -/
def isSpace (character : Char) : Bool :=
  character == ' ' || character == '\t' || character == '\n' || character == '\r'

/-- What follows the blanks at the front. -/
def skipSpace (text : List Char) : List Char :=
  text.dropWhile isSpace

theorem length_dropWhile_le (accepts : Char → Bool) (text : List Char) :
    (text.dropWhile accepts).length ≤ text.length :=
  (List.dropWhile_suffix accepts).length_le

theorem length_le_of_skipSpace {text rest : List Char} (h : skipSpace text = rest) :
    rest.length ≤ text.length :=
  h ▸ length_dropWhile_le isSpace text

/-! ## Strings -/

/-- The value of a hexadecimal digit. -/
def hexDigit? (character : Char) : Option Nat :=
  if '0' ≤ character ∧ character ≤ '9' then some (character.toNat - '0'.toNat)
  else if 'a' ≤ character ∧ character ≤ 'f' then some (character.toNat - 'a'.toNat + 10)
  else if 'A' ≤ character ∧ character ≤ 'F' then some (character.toNat - 'A'.toNat + 10)
  else none

/-- The code unit that four hexadecimal digits spell. -/
def codeUnit? : Reader Nat
  | first :: second :: third :: fourth :: rest => do
      let unit := (← hexDigit? first) * 4096 + (← hexDigit? second) * 256
        + (← hexDigit? third) * 16 + (← hexDigit? fourth)
      return (unit, ⟨rest, by simp only [List.length_cons]; omega⟩)
  | _ => none

/-- The character after `\u`: one code unit, or a high and a low surrogate with another `\u` between
them. -/
def escapedScalar? (purpose : Purpose) : Reader Char := fun text =>
  match codeUnit? text with
  | none => none
  | some (unit, rest) =>
      if purpose = .skip then some (Char.ofNat unit, rest)
      else if 0xD800 ≤ unit ∧ unit < 0xDC00 then
        match rest with
        | ⟨'\\' :: 'u' :: tail, shorter⟩ =>
            match codeUnit? tail with
            | some (low, rest) =>
                if 0xDC00 ≤ low ∧ low < 0xE000 then
                  some (Char.ofNat (0x10000 + (unit - 0xD800) * 0x400 + (low - 0xDC00)),
                    rest.ofPart (by simp only [List.length_cons] at shorter; omega))
                else none
            | none => none
        | _ => none
      else if 0xDC00 ≤ unit ∧ unit < 0xE000 then none
      else some (Char.ofNat unit, rest)

/-- The character an escape of one letter stands for. -/
def escapedLetter? : Char → Option Char
  | '"' => some '"'
  | '\\' => some '\\'
  | '/' => some '/'
  | 'b' => some '\x08'
  | 'f' => some '\x0c'
  | 'n' => some '\n'
  | 'r' => some '\r'
  | 't' => some '\t'
  | _ => none

/-- One character of a string: itself, or what its escape stands for. -/
def stringCharacter? (purpose : Purpose) : Reader Char
  | '\\' :: 'u' :: rest =>
      (escapedScalar? purpose rest).map fun (character, left) =>
        (character, left.ofPart (by simp only [List.length_cons]; omega))
  | '\\' :: letter :: rest =>
      (escapedLetter? letter).map (·, ⟨rest, by simp only [List.length_cons]; omega⟩)
  | character :: rest =>
      if character.toNat < 0x20 ∨ character = '\\' then none
      else some (character, ⟨rest, by simp only [List.length_cons]; omega⟩)
  | [] => none

/-- The characters of a string up to its closing quote. -/
def stringTail (purpose : Purpose) (read : List Char) (text : List Char) :
    Option (String × Rest text) :=
  match text with
  | '"' :: rest => some (String.ofList read.reverse, ⟨rest, by simp only [List.length_cons]; omega⟩)
  | text =>
      match stringCharacter? purpose text with
      | none => none
      | some (character, ⟨rest, shorter⟩) =>
          (stringTail purpose (character :: read) rest).map fun (whole, left) =>
            (whole, left.ofPart (Nat.le_of_lt shorter))
termination_by text.length

/-! ## Numbers -/

/-- One more digit on an integer, if the result still fits 64 bits. -/
def appendDigit? (significand : Nat) (digit : Char) : Option Nat :=
  let longer := significand * 10 + (digit.toNat - '0'.toNat)
  if longer < UInt64.size then some longer else none

/-- Digits taken into an integer as long as it fits 64 bits, and the digits left over. -/
def takeDigits (significand : Nat) : List Char → Nat × List Char
  | [] => (significand, [])
  | digit :: rest =>
      match appendDigit? significand digit with
      | some longer => takeDigits longer rest
      | none => (significand, digit :: rest)

/-- Powers of ten beyond which a double is scaled in steps. -/
def greatestPower : Nat := 308

/-- `number / 10 ^ power`, in steps of the greatest power. -/
def scaleDown (number : Float) (power : Nat) : Float :=
  if power ≤ greatestPower then number / Float.ofScientific 1 false power
  else if number == 0 then number
  else scaleDown (number / Float.ofScientific 1 false greatestPower) (power - greatestPower)
termination_by power
decreasing_by simp [greatestPower] at *; omega

/-- The double `significand * 10 ^ power`, rounded after each step. A number beyond the largest
double is refused. -/
def scale? (significand : Nat) (power : Int) : Option Float :=
  let number := Float.ofNat significand
  if power < 0 then some (scaleDown number power.natAbs)
  else if power.natAbs ≤ greatestPower then
    let scaled := number * Float.ofScientific 1 false power.natAbs
    if scaled.isInf then none else some scaled
  else if number == 0 then some number
  else none

/-- The double of a literal. The digits that fit 64 bits count, those that follow do not; of the
integer part they still move the point. -/
def double? (literal : Decimal.Literal) : Option Float :=
  let (significand, dropped) := takeDigits 0 literal.whole
  let (significand, left) := takeDigits significand literal.fraction
  let used := literal.fraction.length - left.length
  scale? significand (literal.exponent + dropped.length - used)

/-- A number without its sign, from its digits and the exponent that may follow: integers that fit
64 bits stay integers, minus zero does not. -/
def numberOf? (purpose : Purpose) (negative : Bool) (whole fraction : List Char) (integral : Bool)
    (exponent : Option Int) : Option JsonNumber :=
  let signed (number : Float) : JsonNumber := .double (if negative then -number else number)
  let magnitude := Decimal.ofDigits whole
  if purpose = .skip then some (.natural 0)
  else if integral ∧ exponent.isNone ∧ !negative ∧ magnitude < UInt64.size then
    some (.natural magnitude)
  else if integral ∧ exponent.isNone ∧ negative ∧ 0 < magnitude ∧ magnitude ≤ Nat.pow 2 63 then
    some (.negative magnitude)
  else (double? ⟨whole, fraction, exponent.getD 0⟩).map signed

/-- An exponent, if a letter for one comes next; then it has to be whole. -/
def exponent? (text : List Char) :
    Option (Option Int × { rest : List Char // rest.length ≤ text.length }) :=
  match text with
  | letter :: rest =>
      if letter = 'e' ∨ letter = 'E' then
        match scanned : Decimal.scanExponent? (letter :: rest) with
        | some (exponent, behind) =>
            some (some exponent, ⟨behind, Nat.le_of_lt (Decimal.length_lt_of_scanExponent scanned)⟩)
        | none => none
      else some (none, ⟨letter :: rest, Nat.le_refl _⟩)
  | [] => some (none, ⟨[], Nat.le_refl _⟩)

/-- A number behind its sign: an integer part without leading zeros, then a fraction and an exponent
or not. -/
def unsigned? (purpose : Purpose) (negative : Bool) : Reader JsonNumber := fun text =>
  match start : Decimal.spanDigits text with
  | ([], _) => none
  | (first :: digits, behind) =>
      have := Decimal.length_lt_of_spanDigits start
      if first = '0' ∧ !digits.isEmpty then none
      else
        match behind with
        | '.' :: tail =>
            match Decimal.spanDigits tail, Decimal.length_spanDigits_le tail with
            | ([], _), _ => none
            | (fraction, behind), _ => do
                let (exponent, ⟨rest, _⟩) ← exponent? behind
                let read ← numberOf? purpose negative (first :: digits) fraction false exponent
                return (read, ⟨rest, by simp only [List.length_cons] at *; omega⟩)
        | behind => do
            let (exponent, ⟨rest, _⟩) ← exponent? behind
            let read ← numberOf? purpose negative (first :: digits) [] true exponent
            return (read, ⟨rest, by omega⟩)

/-- A number with a minus sign before it or not. -/
def number? (purpose : Purpose) : Reader JsonNumber
  | '-' :: rest =>
      (unsigned? purpose true rest).map fun (read, left) =>
        (read, left.ofPart (by simp only [List.length_cons]; omega))
  | text => unsigned? purpose false text

/-! ## Values -/

/-- A value that holds no others. -/
def scalar? (purpose : Purpose) : Reader Json
  | '"' :: rest =>
      (stringTail purpose [] rest).map fun (read, left) =>
        (.string read, left.ofPart (by simp only [List.length_cons]; omega))
  | 'n' :: 'u' :: 'l' :: 'l' :: rest => some (.null, ⟨rest, by simp only [List.length_cons]; omega⟩)
  | 't' :: 'r' :: 'u' :: 'e' :: rest =>
      some (.bool true, ⟨rest, by simp only [List.length_cons]; omega⟩)
  | 'f' :: 'a' :: 'l' :: 's' :: 'e' :: rest =>
      some (.bool false, ⟨rest, by simp only [List.length_cons]; omega⟩)
  | text => (number? purpose text).map fun (read, left) => (.number read, left)

/-- The items of an array up to its closing bracket, the array not being empty. -/
def items (value : Reader Json) (read : List Json) (text : List Char) :
    Option (List Json × Rest text) :=
  match value text with
  | none => none
  | some (item, ⟨behind, shorter⟩) =>
      match next : skipSpace behind with
      | ']' :: rest =>
          have := length_le_of_skipSpace next
          some ((item :: read).reverse, ⟨rest, by simp only [List.length_cons] at this; omega⟩)
      | ',' :: rest =>
          have := length_le_of_skipSpace next
          (items value (item :: read) rest).map fun (read, left) =>
            (read, left.ofPart (by simp only [List.length_cons] at this; omega))
      | _ => none
termination_by text.length
decreasing_by simp only [List.length_cons] at this; omega

/-- A key, the colon after it and its value. -/
def field? (purpose : Purpose) (value : String → Reader Json) :
    Reader (String × Json) := fun text =>
  match start : skipSpace text with
  | '"' :: rest =>
      match stringTail purpose [] rest with
      | none => none
      | some (key, ⟨behind, shorter⟩) =>
          match next : skipSpace behind with
          | ':' :: rest =>
              have := length_le_of_skipSpace start
              have := length_le_of_skipSpace next
              (value key rest).map fun (read, left) =>
                ((key, read), left.ofPart (by simp only [List.length_cons] at *; omega))
          | _ => none
  | _ => none

/-- The fields of an object up to its closing brace, the object not being empty. -/
def fields (purpose : Purpose) (value : String → Reader Json) (read : List (String × Json))
    (text : List Char) : Option (List (String × Json) × Rest text) :=
  match field? purpose value text with
  | none => none
  | some (field, ⟨behind, shorter⟩) =>
      match next : skipSpace behind with
      | '\x7d' :: rest =>
          have := length_le_of_skipSpace next
          some ((field :: read).reverse, ⟨rest, by simp only [List.length_cons] at this; omega⟩)
      | ',' :: rest =>
          have := length_le_of_skipSpace next
          (fields purpose value (field :: read) rest).map fun (read, left) =>
            (read, left.ofPart (by simp only [List.length_cons] at this; omega))
      | _ => none
termination_by text.length
decreasing_by simp only [List.length_cons] at this; omega

/-- An array, its opening bracket passed. -/
def array? (value : Reader Json) : Reader Json := fun text =>
  match next : skipSpace text with
  | ']' :: rest =>
      have := length_le_of_skipSpace next
      some (.array [], ⟨rest, by simp only [List.length_cons] at this; omega⟩)
  | _ => (items value [] text).map fun (read, left) => (.array read, left)

/-- An object, its opening brace passed, with a reader for the value under each key. -/
def object? (purpose : Purpose) (value : String → Reader Json) : Reader Json := fun text =>
  match next : skipSpace text with
  | '\x7d' :: rest =>
      have := length_le_of_skipSpace next
      some (.object [], ⟨rest, by simp only [List.length_cons] at this; omega⟩)
  | _ => (fields purpose value [] text).map fun (read, left) => (.object read, left)

/-- A value that nests at most so deep, blanks before it aside. -/
def value? (purpose : Purpose) (depth : Nat) : Reader Json := fun text =>
  match start : skipSpace text, depth with
  | '[' :: _, 0 => none
  | '\x7b' :: _, 0 => none
  | '[' :: inside, depth + 1 =>
      have := length_le_of_skipSpace start
      (array? (value? purpose depth) inside).map fun (read, left) =>
        (read, left.ofPart (by simp only [List.length_cons] at this; omega))
  | '\x7b' :: inside, depth + 1 =>
      have := length_le_of_skipSpace start
      (object? purpose (fun _ => value? purpose depth) inside).map fun (read, left) =>
        (read, left.ofPart (by simp only [List.length_cons] at this; omega))
  | rest, _ =>
      (scalar? purpose rest).map fun (read, left) =>
        (read, left.ofPart (length_le_of_skipSpace start))

/-- How deep arrays and objects may nest. -/
def greatestDepth : Nat := 127

/-- A value that is skipped; it may nest as deep as its text is long. -/
def skipped? : Reader Json := fun text => value? .skip text.length text

/-- A value that is kept, but in which, if it is an object, the values under some keys are skipped.
-/
def selected? (counts : String → Bool) : Reader Json := fun text =>
  match start : skipSpace text with
  | '\x7b' :: inside =>
      have := length_le_of_skipSpace start
      (object? .keep
          (fun key => if counts key then value? .keep (greatestDepth - 1) else skipped?) inside).map
        fun (read, left) => (read, left.ofPart (by simp only [List.length_cons] at this; omega))
  | _ => value? .keep greatestDepth text

/-- What a reader finds in a text in which only blanks follow. -/
def whole? (reader : Reader Json) (text : String) : Option Json :=
  match reader text.toList with
  | some (value, rest) => if (skipSpace rest.1).isEmpty then some value else none
  | none => none

end Parser

/-- The document in a text, repeated keys left as they stand. -/
def parseUnmerged? (text : String) : Option Json :=
  Parser.whole? (Parser.value? .keep Parser.greatestDepth) text

/-- The document in a text, repeated keys left as they stand. In an object, values under keys that
do not count need no meaning, only the form of a value. -/
def parseSelected? (counts : String → Bool) (text : String) : Option Json :=
  Parser.whole? (Parser.selected? counts) text

/-- The document in a text. -/
def parse? (text : String) : Option Json :=
  (parseUnmerged? text).map merge

end AccessRules.Json
