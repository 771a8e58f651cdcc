import AccessRules.Decimal.Dyadic

/-!
# Reading decimals

A decimal literal is a run of digits, at most one point and an exponent. Its value is the double
nearest to it, a tie going to the even mantissa; a value beyond the largest double is infinite.
-/

namespace AccessRules.Decimal

/-- An ASCII digit. -/
def isDigit (character : Char) : Bool :=
  '0' ≤ character && character ≤ '9'

/-- The number a run of digits stands for. -/
def ofDigits (digits : List Char) : Nat :=
  digits.foldl (fun number digit => number * 10 + (digit.toNat - '0'.toNat)) 0

/-- The digits at the front and what follows them. -/
def spanDigits (text : List Char) : List Char × List Char :=
  (text.takeWhile isDigit, text.dropWhile isDigit)

theorem length_spanDigits_le (text : List Char) : (spanDigits text).2.length ≤ text.length :=
  (List.dropWhile_suffix isDigit).length_le

theorem length_lt_of_spanDigits {text digits rest : List Char} {first : Char}
    (h : spanDigits text = (first :: digits, rest)) : rest.length < text.length := by
  have lengths := congrArg List.length (List.takeWhile_append_dropWhile (p := isDigit) (l := text))
  simp only [spanDigits, Prod.mk.injEq] at h
  rw [h.1, h.2, List.length_append, List.length_cons] at lengths
  omega

/-- A decimal as it is written: the digits before and after the point, and the exponent. -/
structure Literal where
  whole : List Char
  fraction : List Char
  exponent : Int
deriving DecidableEq, Repr

namespace Literal

/-- The double nearest to `coefficient * 10 ^ power`. -/
def nearest (coefficient : Nat) (power : Int) : Float :=
  Float.ofScientific coefficient (power < 0) power.natAbs

/-- The double nearest to the literal. -/
def toFloat (literal : Literal) : Float :=
  nearest (ofDigits (literal.whole ++ literal.fraction))
    (literal.exponent - literal.fraction.length)

end Literal

/-- The digits of an exponent at the front, at least one, behind a sign that may have been negative.
-/
def scanMagnitude? (negative : Bool) (text : List Char) : Option (Int × List Char) :=
  match spanDigits text with
  | ([], _) => none
  | (digits, rest) =>
      some (if negative then -(ofDigits digits : Int) else (ofDigits digits : Int), rest)

/-- An exponent at the front: a letter `e`, a sign or none, and at least one digit. -/
def scanExponent? (text : List Char) : Option (Int × List Char) :=
  match text with
  | letter :: rest =>
      if letter = 'e' ∨ letter = 'E' then
        match rest with
        | '+' :: rest => scanMagnitude? false rest
        | '-' :: rest => scanMagnitude? true rest
        | rest => scanMagnitude? false rest
      else none
  | [] => none

theorem length_le_of_scanMagnitude {negative : Bool} {text rest : List Char} {exponent : Int}
    (h : scanMagnitude? negative text = some (exponent, rest)) : rest.length ≤ text.length := by
  have shorter := length_spanDigits_le text
  unfold scanMagnitude? at h
  split at h
  · cases h
  · rename_i spanned
    cases h
    rwa [spanned] at shorter

theorem length_lt_of_scanExponent {text rest : List Char} {exponent : Int}
    (h : scanExponent? text = some (exponent, rest)) : rest.length < text.length := by
  unfold scanExponent? at h
  split at h
  · split at h
    · split at h <;>
      · have := length_le_of_scanMagnitude h
        simp only [List.length_cons] at *
        omega
    · cases h
  · cases h

/-- The longest unsigned literal at the front: digits with or without a point among or after them,
or a point with digits after it; then an exponent if a whole one is there. -/
def scanLiteral? (text : List Char) : Option (Literal × List Char) :=
  let finish (whole fraction rest : List Char) : Literal × List Char :=
    match scanExponent? rest with
    | some (exponent, rest) => (⟨whole, fraction, exponent⟩, rest)
    | none => (⟨whole, fraction, 0⟩, rest)
  match spanDigits text with
  | ([], '.' :: rest) =>
      match spanDigits rest with
      | ([], _) => none
      | (fraction, rest) => some (finish [] fraction rest)
  | ([], _) => none
  | (whole, '.' :: rest) => some (finish whole (spanDigits rest).1 (spanDigits rest).2)
  | (whole, rest) => some (finish whole [] rest)

/-- The double a whole text stands for, if it is a literal with a sign or none before it. -/
def ofText? (text : List Char) : Option Float :=
  let unsigned (text : List Char) : Option Float :=
    match scanLiteral? text with
    | some (literal, []) => some literal.toFloat
    | _ => none
  match text with
  | '-' :: rest => (unsigned rest).map (-·)
  | '+' :: rest => unsigned rest
  | text => unsigned text

/-- The natural number below the bound that a whole text spells in digits, a plus sign or none
before them. -/
def natural? (bound : Nat) (text : List Char) : Option Nat :=
  let digits := match text with
    | '+' :: rest => rest
    | text => text
  if digits.isEmpty || !digits.all isDigit then none
  else if ofDigits digits < bound then some (ofDigits digits)
  else none

end AccessRules.Decimal
