/-!
# Doubles as dyadic numbers

A finite double is a sign, a natural number and a power of two. Whatever has to be exact (the text
of a number, the remainder of a division) is computed on these parts with natural numbers.
-/

namespace AccessRules.Decimal

/-- What a double stands for. A finite one is `mantissa * 2 ^ exponent` with its sign. -/
inductive Dyadic where
  | nan
  | infinite (negative : Bool)
  | finite (negative : Bool) (mantissa : Nat) (exponent : Int)
deriving DecidableEq, Repr

namespace Dyadic

/-- The least exponent of a double. -/
def leastExponent : Int := -1074

/-- The parts of a double, read off its 64 bits. -/
def ofFloat (number : Float) : Dyadic :=
  let bits : Nat := number.toBits.toNat
  let negative : Bool := bits / Nat.pow 2 63 == 1
  let field : Nat := bits / Nat.pow 2 52 % Nat.pow 2 11
  let fraction : Nat := bits % Nat.pow 2 52
  if field = 2047 then
    if fraction = 0 then .infinite negative else .nan
  else if field = 0 then .finite negative fraction leastExponent
  else .finite negative (fraction + Nat.pow 2 52) (field - 1075)

/-- The double with these parts. A mantissa that needs more than 53 bits loses its lowest ones, so
the result is exact whenever the number is a double at all. -/
def toFloat : Dyadic → Float
  | .nan => Float.ofBits 0x7FF8000000000000
  | .infinite negative => Float.ofBits (if negative then 0xFFF0000000000000 else 0x7FF0000000000000)
  | .finite negative mantissa exponent =>
      let target := max leastExponent (exponent + (mantissa.log2 : Int) - 52)
      let significand :=
        if exponent ≤ target then mantissa / Nat.pow 2 (target - exponent).toNat
        else mantissa * Nat.pow 2 (exponent - target).toNat
      let magnitude :=
        if significand < Nat.pow 2 52 then significand
        else (target + 1075).toNat * Nat.pow 2 52 + (significand - Nat.pow 2 52)
      Float.ofBits (UInt64.ofNat (if negative then magnitude + Nat.pow 2 63 else magnitude))

end Dyadic

/-- The remainder of a division that truncates its quotient: it has the sign of the dividend and is
exact. There is none of an infinite dividend or by zero; an infinite divisor leaves the dividend. -/
def remainder (dividend divisor : Float) : Float :=
  match Dyadic.ofFloat dividend, Dyadic.ofFloat divisor with
  | .finite negative mantissa exponent, .finite _ mantissa' exponent' =>
      if mantissa' = 0 then Dyadic.toFloat .nan
      else
        let common := min exponent exponent'
        let scaled := mantissa * Nat.pow 2 (exponent - common).toNat
        let scaled' := mantissa' * Nat.pow 2 (exponent' - common).toNat
        Dyadic.toFloat (.finite negative (scaled % scaled') common)
  | .finite .., .infinite _ => dividend
  | _, _ => Dyadic.toFloat .nan

end AccessRules.Decimal
