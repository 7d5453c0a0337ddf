/-! Binary numbers of double precision as whole numbers times powers of two, with rounding. -/

namespace Stencil

/-- The classes of a double: a finite one is its significand times two to its exponent. -/
inductive Double where
  | finite (negative : Bool) (significand : Nat) (exponent : Int)
  | infinite (negative : Bool)
  | nan
deriving DecidableEq, Repr

namespace Double

/-- The exponent of the smallest doubles. -/
def minExponent : Int := -1074

/-- The exponent of the largest doubles. -/
def maxExponent : Int := 971

/-- Reads the fields of a double. -/
def ofFloat (x : Float) : Double :=
  let bits := x.toBits.toNat
  let negative := bits / Nat.pow 2 63 == 1
  let field := bits / Nat.pow 2 52 % Nat.pow 2 11
  let fraction := bits % Nat.pow 2 52
  if field == 2047 then if fraction == 0 then .infinite negative else .nan
  else if field == 0 then .finite negative fraction minExponent
  else .finite negative (fraction + Nat.pow 2 52) (minExponent + (field - 1 : Nat))

/-- Writes the fields of a double whose significand has at most 53 bits. -/
def toFloat : Double → Float
  | .nan => Float.ofBits 0x7FF8000000000000
  | .infinite negative => Float.ofBits (if negative then 0xFFF0000000000000 else 0x7FF0000000000000)
  | .finite negative significand exponent =>
    let sign := if negative then Nat.pow 2 63 else 0
    let field := (exponent - minExponent).toNat
    let magnitude :=
      if significand < Nat.pow 2 52 then significand else field * Nat.pow 2 52 + significand
    Float.ofBits (sign + magnitude).toUInt64

end Double

/-- A quotient of whole numbers rounded to the nearest, a tie going to the even one. -/
def roundDiv (numerator denominator : Nat) : Nat :=
  let quotient := numerator / denominator
  let twice := 2 * (numerator % denominator)
  if twice < denominator then quotient
  else if twice == denominator then quotient + quotient % 2
  else quotient + 1

/-- A ratio times a power of two, rounded to a whole number. -/
def roundScaled (numerator denominator : Nat) (exponent : Int) : Nat :=
  if exponent < 0 then roundDiv (numerator * Nat.pow 2 (-exponent).toNat) denominator
  else roundDiv numerator (denominator * Nat.pow 2 exponent.toNat)

/-- The double nearest to a ratio of whole numbers with a positive denominator. -/
def Double.ofRatio (negative : Bool) (numerator denominator : Nat) : Double :=
  if numerator == 0 then .finite negative 0 minExponent
  else
    -- The ratio lies between two to the power of guess and of guess plus two.
    let guess : Int := Int.ofNat numerator.log2 - Int.ofNat denominator.log2 - 1
    let tight := max minExponent (guess - 52)
    let first := roundScaled numerator denominator tight
    let fits := first < Nat.pow 2 53
    let exponent := if fits then tight else tight + 1
    let significand := if fits then first else roundScaled numerator denominator exponent
    -- Rounding up may still reach the next power of two.
    let (significand, exponent) :=
      if significand < Nat.pow 2 53 then (significand, exponent) else (Nat.pow 2 52, exponent + 1)
    if maxExponent < exponent then .infinite negative else .finite negative significand exponent

/-- The double nearest to a decimal number, given by its digits as a whole number and an exponent
of ten. -/
def Double.ofDecimal (negative : Bool) (digits : Nat) (exponent : Int) : Double :=
  -- Past these bounds no digit can matter, and the powers of ten would only grow.
  let width : Int := (Nat.toDigits 10 digits).length
  if digits == 0 || width + exponent < -400 then .finite negative 0 minExponent
  else if 400 < width + exponent then .infinite negative
  else if exponent < 0 then .ofRatio negative digits (Nat.pow 10 (-exponent).toNat)
  else .ofRatio negative (digits * Nat.pow 10 exponent.toNat) 1

end Stencil
