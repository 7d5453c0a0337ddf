import Stencil.Table
import Stencil.Template.Value.Number

/-! Comparison of template values: when two are the same, and when one lies within another. -/

namespace Stencil.Template

namespace Value

mutual

/-- Tests whether two values are the same; numbers of all kinds compare exactly, and no undefined
value compares at all. -/
def same : Value → Value → Except Failure Bool
  | .undefined message, _ => .error (undefinedFailure message)
  | _, .undefined message => .error (undefinedFailure message)
  | .null, .null => .ok true
  | .text a, .text b => .ok (a == b)
  | .list a, .list b => if a.length == b.length then sameItems a b else .ok false
  | .dict a, .dict b => if a.length == b.length then sameEntries a b else .ok false
  | .facade, .facade => .ok true
  | .operation a, .operation b => .ok (a == b)
  | .closure a _ _ _, .closure b _ _ _ => .ok (a.word == b.word)
  | .loopState index length, .loopState otherIndex otherLength =>
    .ok (index == otherIndex && length == otherLength)
  | a, b =>
    match Number.ofValue? a, Number.ofValue? b with
    | some m, some n => .ok (m.same n)
    | _, _ => .ok false

/-- Tests whether lists hold the same items. -/
def sameItems : List Value → List Value → Except Failure Bool
  | a :: as, b :: bs => do
    if ← same a b then sameItems as bs else return false
  | [], [] => .ok true
  | _, _ => .ok false

/-- Tests whether every entry has the same value in another dictionary. -/
def sameEntries : List (String × Value) → List (String × Value) → Except Failure Bool
  | [], _ => .ok true
  | (key, a) :: rest, others =>
    match findEntry key others with
    | none => .ok false
    | some b => do
      if ← same a b then sameEntries rest others else return false

end

/-- Tests whether a value is the same as one of some items. -/
def isAmong (item : Value) : List Value → Except Failure Bool
  | [] => .ok false
  | other :: rest => do
    if ← same other item then return true else isAmong item rest

/-- Tests whether characters stand somewhere inside others. -/
def isInside (inner : List Char) : List Char → Bool
  | [] => inner.isEmpty
  | c :: rest => inner.isPrefixOf (c :: rest) || isInside inner rest

/-- Tests whether a value lies within another: a part of a text, an item, or a key. -/
def within (item container : Value) : Except Failure Bool :=
  match container, item with
  | .undefined message, _ => .error (undefinedFailure message)
  | .list items, item => isAmong item items
  | .text whole, .text part => .ok (isInside part.toList whole.toList)
  | .dict entries, .text key => .ok (findEntry key entries).isSome
  | .dict _, .undefined message => .error (undefinedFailure message)
  | .dict _, .list _ => .error .wrongType
  | .dict _, .dict _ => .error .wrongType
  | .dict _, _ => .ok false
  | _, _ => .error .wrongType

end Value

end Stencil.Template
