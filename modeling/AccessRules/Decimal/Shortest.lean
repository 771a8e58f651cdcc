import AccessRules.Decimal.Dyadic

/-!
# The shortest decimal that reads back

Of all decimals that round to a given double, the one with the fewest digits is chosen, and of those
the nearest. The reals that round to `mantissa * 2 ^ exponent` form an interval which reaches half
way to each neighbour and holds its ends exactly when the mantissa is even. For one digit, two
digits and so on up to seventeen, the two points of that decimal grid around the double are tested
against the interval in exact arithmetic, and the first grid with a hit wins.
-/

namespace AccessRules.Decimal

/-- A decimal `coefficient * 10 ^ power`. -/
structure Scaled where
  coefficient : Nat
  power : Int
deriving DecidableEq, Repr

/-- Which of two equally near decimals is taken. -/
inductive Tie where
  | up
  | even
deriving DecidableEq, Repr

namespace Shortest

/-- The reals that round to one double, all of them over one denominator. -/
structure Interval where
  low : Nat
  value : Nat
  high : Nat
  denominator : Nat
  closed : Bool

/-- The interval of `mantissa * 2 ^ exponent`. Below a power of two the doubles lie twice as dense,
so there the lower end is only a quarter step away. -/
def interval (mantissa : Nat) (exponent : Int) : Interval :=
  let dense := mantissa == Nat.pow 2 52 && Dyadic.leastExponent < exponent
  let scale := Nat.pow 2 exponent.toNat
  let value := 4 * mantissa * scale
  { low := value - (if dense then scale else 2 * scale)
    value := value
    high := value + 2 * scale
    denominator := 4 * Nat.pow 2 (-exponent).toNat
    closed := mantissa % 2 == 0 }

/-- Whether the decimal lies in the interval. -/
def Interval.contains (bounds : Interval) (decimal : Scaled) : Bool :=
  let point := decimal.coefficient * Nat.pow 10 decimal.power.toNat * bounds.denominator
  let unit := Nat.pow 10 (-decimal.power).toNat
  let low := bounds.low * unit
  let high := bounds.high * unit
  if bounds.closed then low ≤ point && point ≤ high else low < point && point < high

/-- The power of ten of the leading digit of `numerator / denominator`: the guess from the binary
logarithms is at most one too small. -/
def leadingPower (numerator denominator : Nat) : Int :=
  let reaches (power : Int) : Bool :=
    denominator * Nat.pow 10 power.toNat ≤ numerator * Nat.pow 10 (-power).toNat
  let guess := ((numerator.log2 : Int) - denominator.log2 - 1) * 30103 / 100000 - 1
  if reaches (guess + 3) then guess + 3
  else if reaches (guess + 2) then guess + 2
  else if reaches (guess + 1) then guess + 1
  else guess

/-- The nearest hit among the two points around the value on the grid of multiples of
`10 ^ power`. -/
def onGrid? (bounds : Interval) (tie : Tie) (power : Int) : Option Scaled :=
  let numerator := bounds.value * Nat.pow 10 (-power).toNat
  let denominator := bounds.denominator * Nat.pow 10 power.toNat
  let below : Scaled := ⟨numerator / denominator, power⟩
  let above : Scaled := ⟨numerator / denominator + 1, power⟩
  let rest := numerator % denominator
  if rest = 0 then some below
  else
    match bounds.contains below && below.coefficient != 0, bounds.contains above with
    | true, true =>
        match compare (2 * rest) denominator with
        | .lt => some below
        | .gt => some above
        | .eq => some (match tie with
            | .up => above
            | .even => if below.coefficient % 2 = 0 then below else above)
    | true, false => some below
    | false, true => some above
    | false, false => none

/-- The first grid with a hit, from the coarsest to the finest. -/
def search (bounds : Interval) (tie : Tie) (leading : Int) : Nat → Nat → Option Scaled
  | 0, _ => none
  | more + 1, digits =>
      match onGrid? bounds tie (leading - digits) with
      | some decimal => some decimal
      | none => search bounds tie leading more (digits + 1)

/-- The decimal without zeros at its end. -/
def trimZeros : Nat → Scaled → Scaled
  | 0, decimal => decimal
  | more + 1, decimal =>
      if decimal.coefficient ≠ 0 ∧ decimal.coefficient % 10 = 0 then
        trimZeros more ⟨decimal.coefficient / 10, decimal.power + 1⟩
      else decimal

end Shortest

/-- The shortest decimal that rounds to `mantissa * 2 ^ exponent`, which is not zero; seventeen
digits always suffice. -/
def shortest (tie : Tie) (mantissa : Nat) (exponent : Int) : Scaled :=
  let bounds := Shortest.interval mantissa exponent
  let leading := Shortest.leadingPower bounds.value bounds.denominator
  match Shortest.search bounds tie leading 17 0 with
  | some decimal => Shortest.trimZeros 20 decimal
  | none => ⟨mantissa, exponent⟩

end AccessRules.Decimal
