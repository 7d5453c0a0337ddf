import Stencil.Template.Reading
import Stencil.Template.Tree

/-! Reading expressions, from the weakest connective down to single names and literals. -/

namespace Stencil.Template

/-- The words by which messages name kinds of expressions. -/
def Expr.kindWord : Expr → String
  | .literal _ => "const"
  | .name _ => "name"
  | .list _ => "list"
  | .member _ _ => "getattr"
  | .item _ _ => "getitem"
  | .call _ _ _ => "call"
  | .filter _ _ _ _ => "filter"
  | .test _ _ _ _ => "test"
  | .signed negative _ => if negative then "neg" else "pos"
  | .arithmetic .add _ _ => "add"
  | .arithmetic .divide _ _ => "div"
  | .texts _ => "concat"
  | .compared _ _ => "compare"
  | .negation _ => "not"
  | .connected .both _ _ => "and"
  | .connected .either _ _ => "or"

namespace Reading

/-- The arguments of a call: those given by position, then those given by name. -/
abbrev Arguments := List Expr × List (String × Expr)

/-- The literal or the name that a word stands for. -/
def wordExpr (word : String) : Expr :=
  if word == "true" || word == "True" then .literal (.bool true)
  else if word == "false" || word == "False" then .literal (.bool false)
  else if word == "none" || word == "None" then .literal .null
  else .name word

/-- The comparison that starts here, if one does. -/
def comparison? : Reading (Option Comparison) := do
  let token ← current
  if token.isMark "==" then
    advance
    return some .equal
  else if token.isMark "!=" then
    advance
    return some .unequal
  else if token.isName "in" then
    advance
    return some .within
  else if token.isName "not" then
    if (← following).isName "in" then
      advance
      advance
      return some .notWithin
    else return none
  else return none

/-- Texts that stand side by side are one. -/
def adjacentTexts : Nat → String → Reading String
  | 0, text => return text
  | fuel + 1, text => do
    match ← current with
    | .text more =>
      advance
      adjacentTexts fuel (text ++ more)
    | _ => return text

/-- The name of a filter or a test, in which points may stand. -/
def dottedName : Nat → String → Reading String
  | 0, word => return word
  | fuel + 1, word => do
    if ← skipIf (.mark ".") then dottedName fuel (word ++ "." ++ (← anyName))
    else return word

/-- Tests whether the operand of a test without parentheses may start with a token. -/
def startsOperand : Token → Bool
  | .name word => !(word == "else" || word == "or" || word == "and")
  | .text _ | .integer _ | .float _ => true
  | .mark symbol => symbol == "(" || symbol == "[" || symbol == "\x7b"
  | _ => false

mutual

/-- An expression: alternatives, any of which may hold. -/
def expression : Nat → Reading Expr
  | 0 => throw .tooDeep
  | fuel + 1 => do eitherTail fuel (← bothLevel fuel)

/-- Further alternatives. -/
def eitherTail : Nat → Expr → Reading Expr
  | 0, _ => throw .tooDeep
  | fuel + 1, left => do
    if ← skipIf (.word "or") then
      eitherTail fuel (.connected .either left (← bothLevel fuel))
    else return left

/-- Conditions, all of which have to hold. -/
def bothLevel : Nat → Reading Expr
  | 0 => throw .tooDeep
  | fuel + 1 => do bothTail fuel (← negationLevel fuel)

/-- Further conditions. -/
def bothTail : Nat → Expr → Reading Expr
  | 0, _ => throw .tooDeep
  | fuel + 1, left => do
    if ← skipIf (.word "and") then
      bothTail fuel (.connected .both left (← negationLevel fuel))
    else return left

/-- A negation, or comparisons. -/
def negationLevel : Nat → Reading Expr
  | 0 => throw .tooDeep
  | fuel + 1 => do
    if ← skipIf (.word "not") then return .negation (← negationLevel fuel)
    else
      let first ← sumLevel fuel
      match ← comparedTail fuel with
      | [] => return first
      | others => return .compared first others

/-- Comparisons that follow a first operand. -/
def comparedTail : Nat → Reading (List (Comparison × Expr))
  | 0 => throw .tooDeep
  | fuel + 1 => do
    match ← comparison? with
    | none => return []
    | some comparison =>
      let operand ← sumLevel fuel
      return (comparison, operand) :: (← comparedTail fuel)

/-- A sum. -/
def sumLevel : Nat → Reading Expr
  | 0 => throw .tooDeep
  | fuel + 1 => do sumTail fuel (← textsLevel fuel)

/-- Further summands. -/
def sumTail : Nat → Expr → Reading Expr
  | 0, _ => throw .tooDeep
  | fuel + 1, left => do
    if ← skipIf (.mark "+") then sumTail fuel (.arithmetic .add left (← textsLevel fuel))
    else return left

/-- Texts that are joined. -/
def textsLevel : Nat → Reading Expr
  | 0 => throw .tooDeep
  | fuel + 1 => do
    let first ← quotientLevel fuel
    match ← textsTail fuel with
    | [] => return first
    | others => return .texts (first :: others)

/-- Further texts to join. -/
def textsTail : Nat → Reading (List Expr)
  | 0 => throw .tooDeep
  | fuel + 1 => do
    if ← skipIf (.mark "~") then
      let piece ← quotientLevel fuel
      return piece :: (← textsTail fuel)
    else return []

/-- A quotient. -/
def quotientLevel : Nat → Reading Expr
  | 0 => throw .tooDeep
  | fuel + 1 => do quotientTail fuel (← signedLevel fuel true)

/-- Further divisors. -/
def quotientTail : Nat → Expr → Reading Expr
  | 0, _ => throw .tooDeep
  | fuel + 1, left => do
    if ← skipIf (.mark "/") then
      quotientTail fuel (.arithmetic .divide left (← signedLevel fuel true))
    else return left

/-- An operand with its signs, its accesses and calls, and then its filters and tests. -/
def signedLevel : Nat → Bool → Reading Expr
  | 0, _ => throw .tooDeep
  | fuel + 1, filtered => do
    let first ←
      if ← skipIf (.mark "-") then pure (Expr.signed true (← signedLevel fuel false))
      else if ← skipIf (.mark "+") then pure (Expr.signed false (← signedLevel fuel false))
      else primary fuel
    let accessed ← accessTail fuel first
    if filtered then filterTail fuel accessed else return accessed

/-- A name, a literal, a list, or an expression in parentheses. -/
def primary : Nat → Reading Expr
  | 0 => throw .tooDeep
  | fuel + 1 => do
    match ← current with
    | .name word =>
      advance
      return wordExpr word
    | .text value =>
      advance
      return .literal (.text (← adjacentTexts fuel value))
    | .integer value =>
      advance
      return .literal (.int value)
    | .float value =>
      advance
      return .literal (.float value)
    | .mark "(" =>
      advance
      let inner ← expression fuel
      expect (.mark ")")
      return inner
    | .mark "[" =>
      advance
      return .list (← listItems fuel true)
    | token => refuse s!"unexpected {quote token.describe}"

/-- The items of a list up to its closing bracket; a comma may stand after the last one. -/
def listItems : Nat → Bool → Reading (List Expr)
  | 0, _ => throw .tooDeep
  | fuel + 1, first => do
    if ← skipIf (.mark "]") then return []
    if !first then expect (.mark ",")
    if ← skipIf (.mark "]") then return []
    let item ← expression fuel
    return item :: (← listItems fuel false)

/-- Accesses and calls that follow an operand. -/
def accessTail : Nat → Expr → Reading Expr
  | 0, _ => throw .tooDeep
  | fuel + 1, target => do
    match ← current with
    | .mark "." =>
      advance
      match ← current with
      | .name word =>
        advance
        accessTail fuel (.member target word)
      | .integer index =>
        advance
        accessTail fuel (.item target (.literal (.int index)))
      | _ =>
        advance
        refuse "expected name or number"
    | .mark "[" =>
      advance
      let index ← expression fuel
      expect (.mark "]")
      accessTail fuel (.item target index)
    | .mark "(" =>
      let (placed, named) ← arguments fuel
      accessTail fuel (.call target placed named)
    | _ => return target

/-- Filters, tests and calls that follow an operand. -/
def filterTail : Nat → Expr → Reading Expr
  | 0, _ => throw .tooDeep
  | fuel + 1, subject => do
    match ← current with
    | .mark "|" =>
      advance
      let word ← dottedName fuel (← anyName)
      let (placed, named) ← if ← atMark "(" then arguments fuel else pure ([], [])
      filterTail fuel (.filter subject word placed named)
    | .mark "(" =>
      let (placed, named) ← arguments fuel
      filterTail fuel (.call subject placed named)
    | .name "is" =>
      advance
      let negated ← skipIf (.word "not")
      let test ← testOf fuel subject
      filterTail fuel (if negated then .negation test else test)
    | _ => return subject

/-- A test of a subject, whose one argument needs no parentheses. -/
def testOf : Nat → Expr → Reading Expr
  | 0, _ => throw .tooDeep
  | fuel + 1, subject => do
    let word ← dottedName fuel (← anyName)
    let token ← current
    if token.isMark "(" then
      let (placed, named) ← arguments fuel
      return .test subject word placed named
    else if startsOperand token then
      if token.isName "is" then refuse "You cannot chain multiple tests with is"
      let operand ← accessTail fuel (← primary fuel)
      return .test subject word [operand] []
    else return .test subject word [] []

/-- The arguments of a call in parentheses. -/
def arguments : Nat → Reading Arguments
  | 0 => throw .tooDeep
  | fuel + 1 => do
    expect (.mark "(")
    argumentTail fuel true false

/-- Further arguments up to the closing parenthesis; those by name come last. -/
def argumentTail : Nat → Bool → Bool → Reading Arguments
  | 0, _, _ => throw .tooDeep
  | fuel + 1, first, onlyNamed => do
    if ← skipIf (.mark ")") then return ([], [])
    if !first then expect (.mark ",")
    if ← skipIf (.mark ")") then return ([], [])
    match ← current with
    | .name word =>
      if (← following).isMark "=" then
        advance
        advance
        let value ← expression fuel
        let (placed, named) ← argumentTail fuel false true
        return (placed, (word, value) :: named)
      else placedArgument fuel onlyNamed
    | _ => placedArgument fuel onlyNamed

/-- An argument by position with those that follow it. -/
def placedArgument : Nat → Bool → Reading Arguments
  | 0, _ => throw .tooDeep
  | fuel + 1, onlyNamed => do
    if onlyNamed then refuse "invalid syntax for function call expression"
    let value ← expression fuel
    let (placed, named) ← argumentTail fuel false onlyNamed
    return (value :: placed, named)

end

/-- Refuses a place where no expression starts: a closing, or one of some names. -/
def refuseEnd (ends : List String) : Reading Unit := do
  let token ← current
  let atEnd := match token with
    | .printClose | .blockClose => true
    | .name word => ends.contains word
    | other => other.isMark ")"
  if atEnd then refuse s!"Expected an expression, got {quote token.describe}"

/-- A whole expression, as it stands in a tag. -/
def wholeExpression (fuel : Nat) : Reading Expr := do
  refuseEnd []
  expression fuel

/-- Tests for the names of literals, which nothing can be assigned to. -/
def isLiteralName (word : String) : Bool :=
  match wordExpr word with
  | .name _ => false
  | _ => true

/-- A name that is set or declared. -/
def newName : Reading String := do
  let word ← anyName
  if isLiteralName word then refuse "can't assign to 'name'"
  return word

/-- The target of an assignment, which has to be a name; some names may end it before it starts. -/
def target (fuel : Nat) (ends : List String) : Reading String := do
  refuseEnd ends
  match ← primary fuel with
  | .name word => return word
  | other => refuse s!"can't assign to {quote other.kindWord}"

end Reading

end Stencil.Template
