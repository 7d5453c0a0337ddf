import Stencil.Template.Value

/-! Numbers among the values of templates: their comparison, their sums and their quotients. -/

namespace Stencil.Template

/-- A number: a whole one of any size, or one of double precision. -/
inductive Number where
  | whole (value : Int)
  | real (value : Float)

namespace Number

/-- The number that a value is; truth values count as one and zero. -/
def ofValue? : Value → Option Number
  | .bool value => some (.whole (if value then 1 else 0))
  | .int value => some (.whole value)
  | .float value => some (.real value)
  | _ => none

/-- The value of a number. -/
def toValue : Number → Value
  | whole value => .int value
  | real value => .float value

/-- Tests whether a double is exactly a whole number. -/
def isWhole (value : Float) (n : Int) : Bool :=
  match Double.ofFloat value with
  | .finite negative significand exponent =>
    let signed : Int := if negative then -Int.ofNat significand else Int.ofNat significand
    if exponent < 0 then signed == n * Int.ofNat (Nat.pow 2 (-exponent).toNat)
    else signed * Int.ofNat (Nat.pow 2 exponent.toNat) == n
  | _ => false

/-- Tests whether two numbers are the same, exactly. -/
def same : Number → Number → Bool
  | whole a, whole b => a == b
  | real a, real b => a == b
  | whole a, real b => isWhole b a
  | real a, whole b => isWhole a b

/-- The double nearest to a number, unless that lies beyond all doubles. -/
def toFloat : Number → Except Failure Float
  | real value => .ok value
  | whole value =>
    match Double.ofRatio (decide (value < 0)) value.natAbs 1 with
    | .infinite _ => .error .tooLarge
    | double => .ok double.toFloat

/-- The sum of two numbers. -/
def add : Number → Number → Except Failure Number
  | whole a, whole b => .ok (.whole (a + b))
  | a, b => return .real ((← a.toFloat) + (← b.toFloat))

/-- The quotient of two whole numbers, rounded once. -/
def ratio (a b : Int) : Except Failure Number :=
  if b == 0 then .error .divisionByZero
  else match Double.ofRatio (decide (a < 0) != decide (b < 0)) a.natAbs b.natAbs with
    | .infinite _ => .error .tooLarge
    | double => .ok (.real double.toFloat)

/-- The quotient of two numbers. -/
def divide : Number → Number → Except Failure Number
  | whole a, whole b => ratio a b
  | a, b => do
    let left ← a.toFloat
    let right ← b.toFloat
    if right == 0 then .error .divisionByZero else return .real (left / right)

/-- The number with the other sign. -/
def negate : Number → Number
  | whole value => .whole (-value)
  | real value => .real (-value)

end Number

namespace Value

/-- The failure of an operation on operands one of which may be undefined. -/
def operandFailure (operands : List Value) : Failure :=
  match operands.findSome? fun
    | .undefined message => some message
    | _ => none with
  | some message => undefinedFailure message
  | none => .wrongType

/-- The sum of two values: of numbers, of texts, or of lists. -/
def add (left right : Value) : Except Failure Value :=
  match left, right with
  | .text a, .text b => .ok (.text (a ++ b))
  | .list a, .list b => .ok (.list (a ++ b))
  | a, b =>
    match Number.ofValue? a, Number.ofValue? b with
    | some m, some n => return (← m.add n).toValue
    | _, _ => .error (operandFailure [a, b])

/-- The quotient of two values. -/
def divide (left right : Value) : Except Failure Value :=
  match Number.ofValue? left, Number.ofValue? right with
  | some m, some n => return (← m.divide n).toValue
  | _, _ => .error (operandFailure [left, right])

/-- A value with a sign before it. -/
def signed (negative : Bool) (operand : Value) : Except Failure Value :=
  match Number.ofValue? operand with
  | some n => .ok (if negative then n.negate.toValue else n.toValue)
  | none => .error (operandFailure [operand])

end Value

end Stencil.Template
