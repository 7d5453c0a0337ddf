import Stencil.Table
import Stencil.Template.Value

/-! Access to the parts of template values, by name and by index. -/

namespace Stencil.Template

namespace Value

/-- The undefined value of a part that a value does not have. -/
def missingPart (target index : Value) : Value :=
  match index with
  | .text word => .undefined s!"{quote target.kindWords} has no attribute {quote word}"
  | other => .undefined s!"{target.kindWords} has no element {other.shown}"

/-- What the state of a loop tells by name; positions count from one, or from zero. -/
def loopPart? (index length : Nat) (word : String) : Option Value :=
  if word == "index" then some (.int index)
  else if word == "index0" then some (.int (Int.ofNat index - 1))
  else if word == "revindex" then some (.int (Int.ofNat length - index + 1))
  else if word == "revindex0" then some (.int (Int.ofNat length - index))
  else if word == "first" then some (.bool (index == 1))
  else if word == "last" then some (.bool (index == length))
  else if word == "length" then some (.int length)
  else none

/-- The part of a value that a name stands for. -/
def namedPart? (target : Value) (word : String) : Option Value :=
  match target with
  | .dict entries => findEntry word entries
  | .facade => (Operation.ofWord? word).map .operation
  | .loopState index length => loopPart? index length word
  | _ => none

/-- The position that a value stands for as an index; negative ones count from the end. -/
def position? (length : Nat) (index : Value) : Option Nat :=
  let number : Option Int := match index with
    | .int value => some value
    | .bool value => some (if value then 1 else 0)
    | _ => none
  number.bind fun n =>
    if 0 ≤ n then some n.toNat
    else if 0 ≤ n + length then some (n + length).toNat
    else none

/-- The part of a value that an index other than a name stands for. -/
def indexedPart? (target index : Value) : Option Value :=
  match target with
  | .list items => (position? items.length index).bind fun n => items[n]?
  | .text value =>
    let chars := value.toList
    (position? chars.length index).bind fun n => chars[n]?.map fun c => .text (String.singleton c)
  | _ => none

/-- The part of a value by name; one that is not there is undefined. -/
def member (target : Value) (word : String) : Except Failure Value :=
  match target with
  | .undefined message => .error (undefinedFailure message)
  | _ => .ok ((target.namedPart? word).getD (missingPart target (.text word)))

/-- The part of a value by index; one that is not there is undefined. -/
def item (target index : Value) : Except Failure Value :=
  match target, index with
  | .undefined message, _ => .error (undefinedFailure message)
  | .dict _, .undefined message => .error (undefinedFailure message)
  | _, .text word => target.member word
  | _, _ => .ok ((target.indexedPart? index).getD (missingPart target index))

end Value

end Stencil.Template
