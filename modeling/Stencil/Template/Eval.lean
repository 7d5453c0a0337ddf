import Stencil.Script
import Stencil.Template.Value

/-! Computations of templates: scripts that go on with a value once it is known. -/

namespace Stencil.Template

/-- What templates remember for a whole pass: the exports of the templates that were taken from,
by name and source text. -/
structure Memory where
  modules : List ((String × String) × List (String × Value))

/-- The memory at the start of a pass. -/
def Memory.empty : Memory := ⟨[]⟩

/-- A computation: told how to go on with its value, it is a script. -/
def Eval (α : Type) : Type := (α → Script Memory) → Script Memory

namespace Eval

variable {α β : Type}

/-- The script of a computation that goes on in a given way. -/
def script (computation : Eval α) (next : α → Script Memory) : Script Memory := computation next

/-- A value that is known. -/
def known (value : α) : Eval α := fun next => next value

/-- Goes on with the value of a computation. -/
def andThen (computation : Eval α) (further : α → Eval β) : Eval β :=
  fun next => computation fun value => further value next

instance : Monad Eval where
  pure := known
  bind := andThen

instance : LawfulMonad Eval :=
  LawfulMonad.mk' _ (fun _ => rfl) (fun _ _ => rfl) (fun _ _ _ => rfl)

/-- Ends with a failure. -/
def stop (failure : Failure) : Eval α := fun _ => .fail failure

/-- Takes over a result. -/
def ofExcept : Except Failure α → Eval α
  | .ok value => known value
  | .error failure => stop failure

/-- Looks at a file. -/
def look (path : Path) : Eval (Option ByteArray) := fun next => .look path next

/-- Reads the memory. -/
def remembered : Eval Memory := fun next => .remembered next

/-- Replaces the memory. -/
def remember (memory : Memory) : Eval Unit := fun next => .remember memory (next ())

/-- Joins the texts of a computation for each of some values, counted from a number on. -/
def textOfEach (each : Nat → Value → Eval String) : Nat → List Value → Eval String
  | _, [] => return ""
  | index, value :: rest => do
    let text ← each index value
    let more ← textOfEach each (index + 1) rest
    return text ++ more

end Eval

end Stencil.Template
