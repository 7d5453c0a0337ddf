import Stencil.Datum
import Stencil.Failure
import Stencil.Template.Tree
import Stencil.Template.Vocabulary

/-! Values of templates: data, and what may be called or cannot be used at all. -/

namespace Stencil.Template

/-- A value of a template. An undefined value carries the wording of the failure that its use
leads to. A routine is open while the names around it may still change; a closed one carries the
frames of names around it, innermost first, then the context, and the name of its template. -/
inductive Value where
  | null
  | bool (value : Bool)
  | int (value : Int)
  | float (value : Float)
  | text (value : String)
  | list (items : List Value)
  | dict (entries : List (String × Value))
  | undefined (message : String)
  | facade
  | operation (which : Operation)
  | openRoutine (routine : Routine)
  | closure (routine : Routine) (frames : List (List (String × Value)))
      (context : List (String × Value)) (home : String)
  | loopState (index length : Nat)

instance : Inhabited Value := ⟨.null⟩

/-- The failure that the use of an undefined value leads to. -/
def undefinedFailure (message : String) : Failure := .template .undefinedValue message

namespace Value

mutual

/-- The value of a datum. -/
def ofDatum : Datum → Value
  | .null => .null
  | .bool value => .bool value
  | .int value => .int value
  | .float value => .float value
  | .text value => .text value
  | .list items => .list (ofItems items)
  | .dict entries => .dict (ofEntries entries)

/-- The values of the items of a list. -/
def ofItems : List Datum → List Value
  | [] => []
  | item :: rest => ofDatum item :: ofItems rest

/-- The values of the entries of a dictionary. -/
def ofEntries : List (String × Datum) → List (String × Value)
  | [] => []
  | (key, item) :: rest => (key, ofDatum item) :: ofEntries rest

end

/-- The text that stands for a routine. -/
def routineText (routine : Routine) : String :=
  match routine.word with
  | some word => s!"<Macro {quote word}>"
  | none => "<Macro anonymous>"

mutual

/-- The text of a value as it stands inside a list or a dictionary. -/
def shown : Value → String
  | null => "None"
  | bool value => Datum.boolText value
  | int value => toString value
  | float value => floatText value
  | text value => quote value
  | list items => Datum.bracketed "[" "]" (shownItems items)
  | dict entries => Datum.bracketed "\x7b" "\x7d" (shownEntries entries)
  | undefined _ => "Undefined"
  | facade => "<codegen.output.Output object>"
  | operation which => s!"<bound method Output.{which.word}>"
  | openRoutine routine => routineText routine
  | closure routine _ _ _ => routineText routine
  | loopState index length => s!"<LoopContext {index}/{length}>"

/-- The texts of the items of a list. -/
def shownItems : List Value → List String
  | [] => []
  | item :: rest => item.shown :: shownItems rest

/-- The texts of the entries of a dictionary. -/
def shownEntries : List (String × Value) → List String
  | [] => []
  | (key, item) :: rest => (quote key ++ ": " ++ item.shown) :: shownEntries rest

end

/-- The text of a value: a text stands for itself, all else is shown, but no undefined value. -/
def toText : Value → Except Failure String
  | text value => .ok value
  | undefined message => .error (undefinedFailure message)
  | other => .ok other.shown

/-- The words by which messages name the kind of a value. -/
def kindWords : Value → String
  | null => "None"
  | bool _ => "bool object"
  | int _ => "int object"
  | float _ => "float object"
  | text _ => "str object"
  | list _ => "list object"
  | dict _ => "dict object"
  | undefined _ => "Undefined"
  | facade => "codegen.output.Output object"
  | operation _ => "method object"
  | openRoutine _ => "jinja2.runtime.Macro object"
  | closure _ _ _ _ => "jinja2.runtime.Macro object"
  | loopState _ _ => "jinja2.runtime.LoopContext object"

/-- Tests whether a value counts as true. -/
def truth : Value → Except Failure Bool
  | null => .ok false
  | bool value => .ok value
  | int value => .ok (value != 0)
  | float value => .ok (value != 0)
  | text value => .ok (value != "")
  | list items => .ok !items.isEmpty
  | dict entries => .ok !entries.isEmpty
  | undefined message => .error (undefinedFailure message)
  | _ => .ok true

/-- The values that a loop over a value goes through. -/
def elements : Value → Except Failure (List Value)
  | list items => .ok items
  | text value => .ok (value.toList.map fun c => .text (String.singleton c))
  | dict entries => .ok (entries.map fun entry => .text entry.1)
  | undefined message => .error (undefinedFailure message)
  | _ => .error .wrongType

end Value

end Stencil.Template
