import Stencil.Template.Check
import Stencil.Template.Evaluate
import Stencil.Template.Statement

/-! The library of templates in a directory: rendering one, which may call, embed and take from
others. -/

namespace Stencil.Template

/-- How deep calls and templates may be nested. -/
def depthLimit : Nat := 240

/-- The names that every template sees. -/
def globals : List (String × Value) := [(facadeWord, .facade)]

/-! ## Routines -/

/-- The argument for each parameter of a routine, where there is one. -/
def argumentsFor : Parameters → Given → List (Option Value)
  | [], _ => []
  | (word, _) :: rest, given =>
    match given.placed with
    | value :: others => some value :: argumentsFor rest ⟨others, given.named⟩
    | [] => findEntry word given.named :: argumentsFor rest given

/-- The value of the caller inside a routine; a null counts as none. -/
def callerOf (given : Given) : Value :=
  match findEntry callerWord given.named with
  | none | some .null => .undefined "No caller defined"
  | some value => value

/-- The words that arguments by name may use: the parameters past those by position, and the
caller where the routine reads it. -/
def acceptedWords (routine : Routine) (given : Given) : List String :=
  (routine.parameters.drop given.placed.length).map Prod.fst ++
    if routine.usesCaller then [callerWord] else []

/-- Tests whether a routine can take the arguments of a call. -/
def accepts (routine : Routine) (given : Given) : Bool :=
  given.placed.length ≤ routine.parameters.length &&
    given.named.all fun entry => (acceptedWords routine given).contains entry.1

/-- The names at the start of a routine: its arguments, a mark for each one that is missing, and
the caller, unless a parameter has its name. -/
def routineFrame (routine : Routine) (given : Given) (found : List (Option Value)) :
    List (String × Value) :=
  let words := routine.parameters.map Prod.fst
  let own := (words.zip found).map fun entry => (entry.1, entry.2.getD (missingName entry.1))
  if routine.usesCaller && !words.contains callerWord then own ++ [(callerWord, callerOf given)]
  else own

/-- Sets the parameters without an argument to their defaults, one after the other. -/
def withDefaults (reach : Reach) : List ((String × Option Expr) × Option Value) → Scope → Eval Scope
  | [], scope => return scope
  | (_, some _) :: rest, scope => withDefaults reach rest scope
  | ((word, default), none) :: rest, scope => do
    let value ← match default with
      | some expr => expr.value reach scope
      | none => pure (.undefined s!"parameter {quote word} was not provided")
    withDefaults reach rest (scope.put word value)

/-- The text of a routine that is called in its scope. -/
def invokeRoutine (reach : Reach) (routine : Routine) (scope : Scope) (given : Given) :
    Eval String := do
  if accepts routine given then
    let found := argumentsFor routine.parameters given
    let inner := scope.enter (routineFrame routine given found)
    let ready ← withDefaults reach (routine.parameters.zip found) inner
    return (← textOfBody reach routine.body ready).1
  else .stop .wrongType

/-! ## Templates by name -/

/-- The path components that the name of a template stands for; none may lead upwards. -/
def namePieces? (name : String) : Option (List String) :=
  let pieces := splitAt '/' name
  if pieces.contains ".." then none
  else some (pieces.filter fun piece => piece != "" && piece != ".")

/-- The source of a template. -/
def sourceOf (directory : Path) (name : String) : Eval String :=
  match namePieces? name with
  | none => .stop (.template .notFound name)
  | some pieces => do
    match ← Eval.look (directory.joinAll pieces) with
    | some bytes => .ofExcept ((Encoding.utf8.decode bytes).mapError Failure.decode)
    | none =>
      .stop (.template .notFound
        s!"{quote name} not found in search path: {quote directory.toText}")

/-- The statements of a source without flaws. -/
def compiled (source : String) : Except Failure (List Stmt) := do
  checked (← parse source)

/-- The text of a template that sees some context. -/
def embedTemplate (reach : Reach) (directory : Path) (name : String)
    (context : List (String × Value)) : Eval String := do
  let body ← .ofExcept (compiled (← sourceOf directory name))
  return (← textOfBody reach body (.start context name)).1

/-- The exports of a template that sees no context. A template runs once for its exports; they
are kept as long as its source stays the same. -/
def exportsOfTemplate (reach : Reach) (directory : Path) (name : String) :
    Eval (List (String × Value)) := do
  let source ← sourceOf directory name
  let body ← .ofExcept (compiled source)
  match findEntry (name, source) (← Eval.remembered).modules with
  | some exports => return exports
  | none =>
    let (_, after) ← textOfBody reach body (.start globals name)
    let exports := after.exported
    let memory ← Eval.remembered
    Eval.remember ⟨putEntry (name, source) exports memory.modules⟩
    return exports

/-- What templates of a directory reach, up to a depth. -/
def reachOf (directory : Path) : Nat → Reach
  | 0 => ⟨fun _ _ _ => .stop .tooDeep, fun _ _ => .stop .tooDeep, fun _ => .stop .tooDeep⟩
  | depth + 1 =>
    let reach := reachOf directory depth
    ⟨invokeRoutine reach, embedTemplate reach directory, exportsOfTemplate reach directory⟩

/-- The name that no context can have: it stands for the template itself. -/
def selfWord : String := "self"

/-- The script of a template of a directory, which sees a context over the globals. -/
def render (directory : Path) (context : List (String × Datum)) (name : String) :
    Script Memory :=
  let rendered : Eval String := do
    let body ← .ofExcept (compiled (← sourceOf directory name))
    if (findEntry selfWord context).isSome then .stop .wrongType
    let values := Scope.overlay globals (Value.ofEntries context)
    return (← textOfBody (reachOf directory depthLimit) body (.start values name)).1
  rendered.script .done

end Stencil.Template
