import Stencil.Failure
import Stencil.Template.Tree
import Stencil.Template.Vocabulary

/-! Flaws of a template that are found before any of it runs. -/

namespace Stencil.Template

/-- What makes a template unusable as a whole. -/
inductive Flaw where
  | unknownFilter (word : String)
  | unknownTest (word : String)
  | loopAssigned
  | callerRequired
  | repeatedName (word : String)
deriving DecidableEq, Repr

namespace Flaw

/-- The failure that a flaw leads to. -/
def failure : Flaw → Failure
  | unknownFilter word => .template .badReference s!"No filter named {quote word}."
  | unknownTest word => .template .badReference s!"No test named {quote word}."
  | loopAssigned =>
    .template .badReference "Can't assign to special loop variable in for-loop target"
  | callerRequired =>
    .template .badReference ("When defining macros or call blocks the special \"caller\" " ++
      "argument must be omitted or be given a default.")
  | repeatedName word => .raised (.other "SyntaxError") s!"keyword argument repeated: {word}"

/-- Tests for the flaws that are noticed only after all others. -/
def isLate : Flaw → Bool
  | repeatedName _ => true
  | _ => false

end Flaw

/-- The names that stand more than once in a list, at each later place. -/
def repeatedNames : List String → List Flaw
  | [] => []
  | word :: rest =>
    (if rest.contains word then [.repeatedName word] else []) ++ repeatedNames rest

/-- The names of the arguments given by name. -/
def namesOf (named : List (String × Expr)) : List String := named.map Prod.fst

mutual

/-- The flaws of an expression, those of a filter or a test before those of its subject. Where
the expression may never be reached, an unknown filter or test is no flaw yet. -/
def Expr.flaws (lenient : Bool) : Expr → List Flaw
  | .literal _ => []
  | .name _ => []
  | .list items => flawsOfAll lenient items
  | .member target _ => target.flaws lenient
  | .item target index => target.flaws lenient ++ index.flaws lenient
  | .call function placed named =>
    function.flaws lenient ++ flawsOfAll lenient placed ++ flawsOfNamed lenient named ++
      repeatedNames (namesOf named)
  | .filter subject word placed named =>
    (if lenient || (Filter.ofWord? word).isSome then [] else [.unknownFilter word]) ++
      subject.flaws lenient ++ flawsOfAll lenient placed ++ flawsOfNamed lenient named ++
      repeatedNames (namesOf named)
  | .test subject word placed named =>
    (if lenient || (Probe.ofWord? word).isSome then [] else [.unknownTest word]) ++
      subject.flaws lenient ++ flawsOfAll lenient placed ++ flawsOfNamed lenient named ++
      repeatedNames (namesOf named)
  | .signed _ operand => operand.flaws lenient
  | .arithmetic _ left right => left.flaws lenient ++ right.flaws lenient
  | .texts pieces => flawsOfAll lenient pieces
  | .compared first others => first.flaws lenient ++ flawsOfCompared lenient others
  | .negation operand => operand.flaws lenient
  | .connected _ left right => left.flaws lenient ++ right.flaws lenient

/-- The flaws of expressions. -/
def flawsOfAll (lenient : Bool) : List Expr → List Flaw
  | [] => []
  | expr :: rest => expr.flaws lenient ++ flawsOfAll lenient rest

/-- The flaws of named arguments. -/
def flawsOfNamed (lenient : Bool) : List (String × Expr) → List Flaw
  | [] => []
  | (_, expr) :: rest => expr.flaws lenient ++ flawsOfNamed lenient rest

/-- The flaws of the operands of comparisons. -/
def flawsOfCompared (lenient : Bool) : List (Comparison × Expr) → List Flaw
  | [] => []
  | (_, expr) :: rest => expr.flaws lenient ++ flawsOfCompared lenient rest

end

/-- The flaws of parameters: a caller that the body uses needs a default. -/
def flawsOfParameters (parameters : Parameters) (body : List Stmt) : List Flaw :=
  let bare := parameters.any fun parameter => parameter.1 == callerWord && parameter.2.isNone
  let defaults := parameters.flatMap fun parameter =>
    match parameter.2 with
    | some default => default.flaws false
    | none => []
  (if bare && readsFirst callerWord body then [.callerRequired] else []) ++ defaults ++
    repeatedNames (parameters.map Prod.fst)

mutual

/-- The flaws of a statement. Inside a branch expressions may never be reached; a body that runs
on its own counts as reached again. -/
def Stmt.flaws (lenient : Bool) : Stmt → List Flaw
  | .data _ => []
  | .print value => value.flaws lenient
  | .branch cases otherwise => flawsOfCases cases ++ flawsOfBody true otherwise
  | .loop target items body otherwise =>
    let mentions := (Stmt.loop target items body otherwise).mentions
    (if mentions.contains ⟨loopWord, .write⟩ then [.loopAssigned] else []) ++
      items.flaws lenient ++ flawsOfBody false body ++ flawsOfBody false otherwise
  | .assign _ value => value.flaws lenient
  | .capture _ body => flawsOfBody false body
  | .routine _ parameters body => flawsOfParameters parameters body ++ flawsOfBody false body
  | .callBlock parameters function placed named body =>
    flawsOfParameters parameters body ++ flawsOfBody false body ++
      function.flaws lenient ++ flawsOfAll lenient placed ++ flawsOfNamed lenient named ++
      repeatedNames (callerWord :: namesOf named)
  | .embed template => template.flaws lenient
  | .take template _ _ => template.flaws lenient

/-- The flaws of statements. -/
def flawsOfBody (lenient : Bool) : List Stmt → List Flaw
  | [] => []
  | stmt :: rest => stmt.flaws lenient ++ flawsOfBody lenient rest

/-- The flaws of the cases of a branch. -/
def flawsOfCases : List (Expr × List Stmt) → List Flaw
  | [] => []
  | (condition, body) :: rest =>
    condition.flaws true ++ flawsOfBody true body ++ flawsOfCases rest

end

/-- The flaw for which a template is refused. -/
def decisiveFlaw? (body : List Stmt) : Option Flaw :=
  let flaws := flawsOfBody false body
  (flaws.find? fun flaw => !flaw.isLate).or flaws.head?

/-- Accepts a template without flaws. -/
def checked (body : List Stmt) : Except Failure (List Stmt) :=
  match decisiveFlaw? body with
  | some flaw => .error flaw.failure
  | none => .ok body

end Stencil.Template
