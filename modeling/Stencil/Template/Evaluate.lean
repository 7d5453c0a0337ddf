import Stencil.Template.Call
import Stencil.Template.Value.Access
import Stencil.Template.Value.Compare

/-! Evaluation of templates: the values of expressions and the texts of statements. -/

namespace Stencil.Template

mutual

/-- The value of an expression, operands from left to right. -/
def Expr.value (reach : Reach) (scope : Scope) : Expr → Eval Value
  | .literal datum => return .ofDatum datum
  | .name word => return scope.find word
  | .list items => return .list (← valuesOf reach scope items)
  | .member target word => do
    .ofExcept ((← target.value reach scope).member word)
  | .item target index => do
    let whole ← target.value reach scope
    .ofExcept (whole.item (← index.value reach scope))
  | .call function placed named => do
    let called ← function.value reach scope
    let placed ← valuesOf reach scope placed
    called.call reach ⟨placed, ← valuesOfNamed reach scope named⟩
  | .filter subject word placed named => do
    let value ← subject.value reach scope
    let placed ← valuesOf reach scope placed
    applyFilter reach word value ⟨placed, ← valuesOfNamed reach scope named⟩
  | .test subject word placed named => do
    let value ← subject.value reach scope
    let placed ← valuesOf reach scope placed
    applyTest word value ⟨placed, ← valuesOfNamed reach scope named⟩
  | .signed negative operand => do
    .ofExcept (Value.signed negative (← operand.value reach scope))
  | .arithmetic operator left right => do
    let a ← left.value reach scope
    let b ← right.value reach scope
    match operator with
    | .add => .ofExcept (a.add b)
    | .divide => .ofExcept (a.divide b)
  | .texts pieces => do
    let values ← valuesOf reach scope pieces
    return .text ("".intercalate (← .ofExcept (textsOf values)))
  | .compared first others => do
    comparedValue reach scope (← first.value reach scope) others
  | .negation operand => do
    return .bool !(← .ofExcept (← operand.value reach scope).truth)
  | .connected connective left right => do
    let value ← left.value reach scope
    let holds ← .ofExcept value.truth
    match connective with
    | .both => if holds then right.value reach scope else return value
    | .either => if holds then return value else right.value reach scope

/-- The values of expressions. -/
def valuesOf (reach : Reach) (scope : Scope) : List Expr → Eval (List Value)
  | [] => return []
  | expr :: rest => do
    let value ← expr.value reach scope
    return value :: (← valuesOf reach scope rest)

/-- The values of named arguments. -/
def valuesOfNamed (reach : Reach) (scope : Scope) :
    List (String × Expr) → Eval (List (String × Value))
  | [] => return []
  | (word, expr) :: rest => do
    let value ← expr.value reach scope
    return (word, value) :: (← valuesOfNamed reach scope rest)

/-- The value of comparisons that follow one another: the first that fails decides, and nothing
after it is evaluated. -/
def comparedValue (reach : Reach) (scope : Scope) (left : Value) :
    List (Comparison × Expr) → Eval Value
  | [] => return .bool true
  | (comparison, expr) :: rest => do
    let right ← expr.value reach scope
    let holds ← .ofExcept (match comparison with
      | .equal => left.same right
      | .unequal => (left.same right).map (!·)
      | .within => left.within right
      | .notWithin => (left.within right).map (!·))
    if holds then comparedValue reach scope right rest else return .bool false

end

/-- The name of a template that a value stands for. -/
def templateName : Value → Except Failure String
  | .text name => .ok name
  | .undefined message => .error (undefinedFailure message)
  | _ => .error .wrongType

/-- Takes names from the exports of a template. One that is not exported is undefined, in words
that tell where it was taken. -/
def adoptAll (template : String) (line : Nat) (exports : List (String × Value)) :
    List (String × String) → Scope → Scope
  | [], scope => scope
  | (word, here) :: rest, scope =>
    let value := (findEntry word exports).getD (.undefined (
      s!"the template {quote template} (imported on line {line} in {quote scope.home}) " ++
        s!"does not export the requested name {quote word}"))
    adoptAll template line exports rest (scope.adopt here value)

/-- The names at the start of the body of a loop; its state is there only if the body uses it. -/
def loopFrame (target : String) (body : List Stmt) (length index : Nat) (value : Value) :
    List (String × Value) :=
  (target, value) ::
    if readsFirst loopWord body then [(loopWord, .loopState index length)] else []

mutual

/-- The text of a statement, and the scope after it. -/
def Stmt.text (reach : Reach) : Stmt → Scope → Eval (String × Scope)
  | .data text, scope => return (text, scope)
  | .print value, scope => do
    return (← .ofExcept (← value.value reach scope).toText, scope)
  | .branch cases otherwise, scope => do
    match ← textOfCases reach cases scope with
    | some result => return result
    | none => textOfBody reach otherwise scope
  | .loop target items body otherwise, scope => do
    let values ← .ofExcept (← items.value reach scope).elements
    if values.isEmpty then
      let (text, _) ← textOfBody reach otherwise (scope.enter [])
      return (text, scope)
    else
      let text ← Eval.textOfEach (fun index value => do
        let inner := scope.enter (loopFrame target body values.length index value)
        return (← textOfBody reach body inner).1) 1 values
      return (text, scope)
  | .assign target value, scope => do
    return ("", scope.assign target (← value.value reach scope))
  | .capture target body, scope => do
    let (text, _) ← textOfBody reach body (scope.enter [])
    return ("", scope.assign target (.text text))
  | .routine word parameters body, scope =>
    return ("", scope.assign word (.openRoutine ⟨some word, parameters, body⟩))
  | .callBlock parameters function placed named body, scope => do
    let caller := Value.closure ⟨none, parameters, body⟩ scope.frames scope.context scope.home
    let called ← function.value reach scope
    let placed ← valuesOf reach scope placed
    let named ← valuesOfNamed reach scope named
    let result ← called.call reach ⟨placed, named ++ [(callerWord, caller)]⟩
    return (← .ofExcept result.toText, scope)
  | .embed template, scope => do
    let name ← .ofExcept (templateName (← template.value reach scope))
    return (← reach.embed name scope.merged, scope)
  | .take template words line, scope => do
    let name ← .ofExcept (templateName (← template.value reach scope))
    return ("", adoptAll name line (← reach.exportsOf name) words scope)

/-- The text of statements one after the other, and the scope after them. -/
def textOfBody (reach : Reach) : List Stmt → Scope → Eval (String × Scope)
  | [], scope => return ("", scope)
  | stmt :: rest, scope => do
    let (text, after) ← stmt.text reach scope
    let (more, last) ← textOfBody reach rest after
    return (text ++ more, last)

/-- The text of the first case whose condition holds, if there is one; it shares the scope around
it. -/
def textOfCases (reach : Reach) : List (Expr × List Stmt) → Scope →
    Eval (Option (String × Scope))
  | [], _ => return none
  | (condition, body) :: rest, scope => do
    if ← .ofExcept (← condition.value reach scope).truth then
      return some (← textOfBody reach body scope)
    else textOfCases reach rest scope

end

end Stencil.Template
