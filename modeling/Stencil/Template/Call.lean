import Stencil.Indent
import Stencil.Template.Eval
import Stencil.Template.Scope
import Stencil.Text.Case

/-! Calls in templates: arguments, the routines and operations that are called, and filters. -/

namespace Stencil.Template

/-- The arguments of a call: by position, then by name. -/
structure Given where
  placed : List Value
  named : List (String × Value)

/-- A call without arguments. -/
def Given.none : Given := ⟨[], []⟩

/-- Arguments by the names of the parameters that they are for. -/
abbrev Bound := List (String × Value)

/-- Gives each argument to a parameter; too many, unknown and repeated ones are refused. -/
def Signature.bind (signature : Signature) (given : Given) : Except Failure Bound :=
  let free := signature.placed.drop given.placed.length ++ signature.namedOnly
  if signature.placed.length < given.placed.length then .error .wrongType
  else if given.named.all fun entry => free.contains entry.1 then
    .ok (signature.placed.zip given.placed ++ given.named)
  else .error .wrongType

namespace Bound

/-- The argument for a parameter that needs one. -/
def required (bound : Bound) (word : String) : Except Failure Value :=
  match findEntry word bound with
  | some value => .ok value
  | none => .error .wrongType

/-- The argument for a parameter that needs none; a null counts as none. -/
def optional (bound : Bound) (word : String) : Option Value :=
  match findEntry word bound with
  | some .null => none
  | found => found

/-- The argument for a parameter with a default. -/
def orDefault (bound : Bound) (word : String) (default : Value) : Value :=
  (findEntry word bound).getD default

end Bound

/-- What a body reaches outside itself: the routines that it calls, the templates that it embeds,
and the names that it takes from other templates. -/
structure Reach where
  invoke : Routine → Scope → Given → Eval String
  embed : String → List (String × Value) → Eval String
  exportsOf : String → Eval (List (String × Value))

/-- The failure of an operation that is called without arguments. -/
def Operation.bareFailure : Operation → Failure
  | .trim | .collapsible | .linesShortable => .badValue .contentMissing
  | _ => .wrongType

/-- The rendering of a value: what can be called is called anew each time, all else is text. -/
def rendering (reach : Reach) (value : Value) : Nat → Script Memory := fun _ =>
  match value with
  | .operation which => .fail which.bareFailure
  | .closure routine frames context home =>
    (reach.invoke routine ⟨frames, context, home, []⟩ Given.none).script .done
  | .openRoutine _ | .loopState _ _ => .fail .wrongType
  | other => (Eval.ofExcept other.toText).script .done

/-- The rendering of a value that may be missing, which is a failure of its own kind. -/
def renderingOr (reach : Reach) (missing : BadValue) : Option Value → Nat → Script Memory
  | some value => rendering reach value
  | none => fun _ => .fail (.badValue missing)

/-- The width that a value stands for as an indentation. -/
def indentWidth : Value → Except Failure Int
  | .text value => Indent.width (.text value)
  | .int value => Indent.width (.int value)
  | .bool value => Indent.width (.bool value)
  | .float value => Indent.width (.float value)
  | .undefined message => .error (undefinedFailure message)
  | _ => .error .wrongType

/-- Trims what a rendering yields. -/
def trimmed (content : Nat → Script Memory) : Eval Value :=
  fun next => .trim content fun text => next (.text text)

/-- Collapses what a rendering yields if it is blank. -/
def collapsed (content : Nat → Script Memory) : Eval Value :=
  fun next => .collapsible content fun text => next (.text text)

/-- Shortens what a rendering yields to one line if it fits. -/
def shortened (content : Nat → Script Memory) (indent : Value) : Eval Value :=
  fun next => .linesShortable content (indentWidth indent) fun text => next (.text text)

/-- Invokes an operation. Its result is an empty text, unless it shapes a text. -/
def Operation.call (reach : Reach) (operation : Operation) (given : Given) : Eval Value := do
  let bound ← .ofExcept (operation.signature.bind given)
  let caller := bound.optional callerWord
  let body := renderingOr reach .bodyMissing ((bound.optional "body").or caller)
  let content := renderingOr reach .contentMissing ((bound.optional "param").or caller)
  let text (word : String) : Eval String := do
    .ofExcept (← .ofExcept (bound.required word)).toText
  match operation with
  | .source =>
    let _ ← .ofExcept (bound.required "simple_name")
    let package ← text "namespace"
    let name ← text "simple_name"
    fun next => .source package name body (next (.text ""))
  | .service =>
    let interface ← text "interface_name"
    fun next => .service interface body (next (.text ""))
  | .error =>
    let message ← text "message"
    fun next => .error message (next (.text ""))
  | .system =>
    let message ← text "message"
    fun next => .system message (next (.text ""))
  | .trim => trimmed content
  | .collapsible => collapsed content
  | .linesShortable => shortened content (bound.orDefault "indent" (.int 0))

/-- Calls a value. -/
def Value.call (reach : Reach) (function : Value) (given : Given) : Eval Value :=
  match function with
  | .operation which => which.call reach given
  | .closure routine frames context home => do
    return .text (← reach.invoke routine ⟨frames, context, home, []⟩ given)
  | .undefined message => .stop (undefinedFailure message)
  | _ => .stop .wrongType

/-- The texts of values, up to the first that has none. -/
def textsOf (values : List Value) : Except Failure (List String) := values.mapM Value.toText

/-- The texts of the elements of a value with a text between them. -/
def joined (value separator : Value) : Except Failure String := do
  let between ← separator.toText
  return between.intercalate (← textsOf (← value.elements))

/-- Applies a filter to a subject. -/
def Filter.apply (reach : Reach) (filter : Filter) (subject : Value) (given : Given) :
    Eval Value := do
  let bound ← .ofExcept (filter.signature.bind ⟨subject :: given.placed, given.named⟩)
  let content :=
    renderingOr reach .contentMissing (if subject matches .null then none else some subject)
  match filter with
  | .lower => return .text (lowerCase (← .ofExcept subject.toText))
  | .upper => return .text (upperCase (← .ofExcept subject.toText))
  | .join => return .text (← .ofExcept (joined subject (bound.orDefault "d" (.text ""))))
  | .trim => trimmed content
  | .collapsible => collapsed content
  | .linesShortable => shortened content (bound.orDefault "indent" (.int 0))

/-- Applies the filter that a word names. -/
def applyFilter (reach : Reach) (word : String) (subject : Value) (given : Given) : Eval Value :=
  match Filter.ofWord? word with
  | some filter => filter.apply reach subject given
  | none => .stop (.template .runtime s!"No filter named {quote word} found.")

/-- Applies a test to a subject. -/
def Probe.holds (probe : Probe) (subject : Value) : Bool :=
  match probe, subject with
  | .defined, .undefined _ => false
  | .defined, _ => true
  | .undefined, .undefined _ => true
  | .undefined, _ => false
  | .none, .null => true
  | .none, _ => false

/-- Applies the test that a word names. -/
def applyTest (word : String) (subject : Value) (given : Given) : Eval Value :=
  match Probe.ofWord? word with
  | some probe =>
    if given.placed.isEmpty && given.named.isEmpty then return .bool (probe.holds subject)
    else .stop .wrongType
  | none => .stop (.template .runtime s!"No test named {quote word} found.")

end Stencil.Template
