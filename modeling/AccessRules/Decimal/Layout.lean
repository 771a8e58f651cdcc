import AccessRules.Decimal.Shortest

/-!
# The text of a number

A layout says how the shortest decimal of a double is written: between which powers of ten it stands
without an exponent, and how the exponent, a whole number, zero and the values that are no number
look.
-/

namespace AccessRules.Decimal

/-- How a double is written. -/
structure Layout where
  /-- The least power of the leading digit that is written without an exponent. -/
  leastPositional : Int
  /-- The greatest power of the leading digit that is written without an exponent. -/
  greatestPositional : Int
  /-- What ends a whole number that is written without an exponent. -/
  wholeEnd : String
  /-- What stands before an exponent that is not negative. -/
  positiveExponent : String
  zero : String
  negativeZero : String
  nan : String
  infinity : String
  tie : Tie

namespace Layout

/-- The decimal digits of a number, the highest first. -/
def digits (number : Nat) : List Char :=
  Nat.toDigits 10 number

/-- The digits of a decimal without an exponent: zeros fill up to the point on either side. -/
def positional (wholeEnd : String) (decimal : Scaled) : String :=
  let figures := digits decimal.coefficient
  if 0 ≤ decimal.power then
    String.ofList (figures ++ List.replicate decimal.power.toNat '0') ++ wholeEnd
  else
    let places := (-decimal.power).toNat
    if figures.length ≤ places then
      "0." ++ String.ofList (List.replicate (places - figures.length) '0' ++ figures)
    else
      String.ofList (figures.take (figures.length - places)) ++ "." ++
        String.ofList (figures.drop (figures.length - places))

/-- The digits of a decimal with an exponent: a point follows the leading digit if others do. -/
def scientific (positiveExponent : String) (decimal : Scaled) : String :=
  match digits decimal.coefficient with
  | [] => ""
  | leading :: rest =>
      let power := decimal.power + rest.length
      let fraction := if rest.isEmpty then "" else "." ++ String.ofList rest
      let exponent :=
        if 0 ≤ power then positiveExponent ++ String.ofList (digits power.toNat)
        else "-" ++ String.ofList (digits (-power).toNat)
      String.singleton leading ++ fraction ++ "e" ++ exponent

/-- The text of a double. -/
def render (layout : Layout) (number : Float) : String :=
  match Dyadic.ofFloat number with
  | .nan => layout.nan
  | .infinite negative => (if negative then "-" else "") ++ layout.infinity
  | .finite negative mantissa exponent =>
      if mantissa = 0 then (if negative then layout.negativeZero else layout.zero)
      else
        let decimal := shortest layout.tie mantissa exponent
        let leading := decimal.power + (digits decimal.coefficient).length - 1
        let text :=
          if layout.leastPositional ≤ leading ∧ leading ≤ layout.greatestPositional then
            positional layout.wholeEnd decimal
          else scientific layout.positiveExponent decimal
        (if negative then "-" else "") ++ text

end Layout

end AccessRules.Decimal
