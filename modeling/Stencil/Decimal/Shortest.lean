import Stencil.Decimal.Binary

/-! Shortest decimals: the fewest digits that read back as a given double. -/

namespace Stencil

/-- A positive decimal number: digits as a whole number, times a power of ten. -/
structure Decimal where
  digits : Nat
  exponent : Int
deriving DecidableEq, Repr

/-- The reals that round to one double, as numbers of a common unit. -/
structure RoundingInterval where
  low : Nat
  value : Nat
  high : Nat
  unit : Nat
  closed : Bool

/-- The interval of a positive finite double, in quarters of its last place. -/
def roundingInterval (significand : Nat) (exponent : Int) : RoundingInterval :=
  -- The gap below a power of two is half the gap above it.
  let halved := significand == Nat.pow 2 52 && Double.minExponent < exponent
  let scale := Nat.pow 2 (exponent - 2).toNat
  ⟨(4 * significand - if halved then 1 else 2) * scale, 4 * significand * scale,
    (4 * significand + 2) * scale, Nat.pow 2 (2 - exponent).toNat, significand % 2 == 0⟩

namespace RoundingInterval

/-- Compares a decimal with a number of the interval: both sides over the common unit. -/
def scaled (interval : RoundingInterval) (digits : Nat) (exponent : Int) : Nat × Nat :=
  (digits * Nat.pow 10 exponent.toNat * interval.unit, Nat.pow 10 (-exponent).toNat)

/-- Tests whether a decimal rounds to the double of the interval. -/
def holds (interval : RoundingInterval) (digits : Nat) (exponent : Int) : Bool :=
  let (left, factor) := interval.scaled digits exponent
  if interval.closed then interval.low * factor ≤ left && left ≤ interval.high * factor
  else interval.low * factor < left && left < interval.high * factor

/-- The nearer of two neighbouring decimals, a tie going to the even one. -/
def nearer (interval : RoundingInterval) (digits : Nat) (exponent : Int) : Nat :=
  let (below, factor) := interval.scaled digits exponent
  let (above, _) := interval.scaled (digits + 1) exponent
  let value := interval.value * factor
  if value - below < above - value then digits
  else if above - value < value - below then digits + 1
  else digits + digits % 2

/-- The best decimal on one grid of powers of ten, if the interval holds any. -/
def onGrid? (interval : RoundingInterval) (exponent : Int) : Option Nat :=
  -- A point of the grid in the interval makes one of the value's two neighbours lie there too.
  let below := interval.value * Nat.pow 10 (-exponent).toNat /
    (interval.unit * Nat.pow 10 exponent.toNat)
  match interval.holds below exponent, interval.holds (below + 1) exponent with
  | true, true => some (interval.nearer below exponent)
  | true, false => some below
  | false, true => some (below + 1)
  | false, false => none

end RoundingInterval

/-- The largest power of ten that is at most a ratio, searched downwards from a bound. -/
def powerBelow (numerator denominator : Nat) (bound : Int) : Nat → Int
  | 0 => bound
  | steps + 1 =>
    if denominator * Nat.pow 10 bound.toNat ≤ numerator * Nat.pow 10 (-bound).toNat then bound
    else powerBelow numerator denominator (bound - 1) steps

/-- Drops the zeros at the end of a decimal's digits. -/
def Decimal.trimmed (digits : Nat) (exponent : Int) : Nat → Decimal
  | 0 => ⟨digits, exponent⟩
  | steps + 1 =>
    if digits % 10 == 0 && digits != 0 then trimmed (digits / 10) (exponent + 1) steps
    else ⟨digits, exponent⟩

/-- The shortest decimal that rounds to a positive finite double, of those the nearest. -/
def Decimal.shortest (significand : Nat) (exponent : Int) : Decimal :=
  let interval := roundingInterval significand exponent
  let top := powerBelow interval.value interval.unit 309 640
  let grids := (List.range 17).map fun (place : Nat) => top - Int.ofNat place
  match grids.findSome? fun grid => (interval.onGrid? grid).map fun digits => (digits, grid) with
  | some (digits, grid) => trimmed digits grid 20
  | none => trimmed interval.value 0 20

/-- How a number is spelled: where positional notation ends and what an exponent looks like. -/
structure NumberStyle where
  firstPositional : Int
  lastPositional : Int
  wholeSuffix : String
  exponentWidth : Nat
  infinityText : String
  nanText : String

/-- Numbers are positional from 1e-4 up to 1e16, whole ones end in a zero place, and an exponent
has a sign and at least two digits. -/
def NumberStyle.plain : NumberStyle := ⟨-4, 15, ".0", 2, "inf", "nan"⟩

/-- A whole number padded with zeros at the front. -/
def paddedNumber (width n : Nat) : List Char :=
  let digits := Nat.toDigits 10 n
  List.replicate (width - digits.length) '0' ++ digits

/-- Spells a decimal in a style. -/
def Decimal.spell (style : NumberStyle) (decimal : Decimal) : List Char :=
  let digits := Nat.toDigits 10 decimal.digits
  let top : Int := decimal.exponent + digits.length - 1
  if top < style.firstPositional || style.lastPositional < top then
    let fraction := digits.drop 1
    digits.take 1 ++ (if fraction.isEmpty then [] else '.' :: fraction) ++ 'e' ::
      (if top < 0 then '-' else '+') :: paddedNumber style.exponentWidth top.natAbs
  else if top < 0 then '0' :: '.' :: List.replicate (-top - 1).toNat '0' ++ digits
  else
    let whole := digits.take (top.toNat + 1)
    let fraction := digits.drop (top.toNat + 1)
    whole ++ List.replicate (top.toNat + 1 - whole.length) '0' ++
      (if fraction.isEmpty then style.wholeSuffix.toList else '.' :: fraction)

/-- Spells a double in a style, by the fewest digits that read back. -/
def spellDouble (style : NumberStyle) : Double → String
  | .nan => style.nanText
  | .infinite negative => (if negative then "-" else "") ++ style.infinityText
  | .finite negative significand exponent =>
    let body :=
      if significand == 0 then '0' :: style.wholeSuffix.toList
      else (Decimal.shortest significand exponent).spell style
    String.ofList (if negative then '-' :: body else body)

/-- The text of a number. -/
def floatText (x : Float) : String := spellDouble .plain (.ofFloat x)

end Stencil
