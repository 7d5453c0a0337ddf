import Stencil.Datum

/-! Syntax trees of templates: expressions, statements, and the names that they mention. -/

namespace Stencil.Template

/-- The operators of arithmetic. -/
inductive Arithmetic where
  | add
  | divide
deriving DecidableEq, Repr

/-- The comparisons that may follow one another. -/
inductive Comparison where
  | equal
  | unequal
  | within
  | notWithin
deriving DecidableEq, Repr

/-- The connectives that stop at the operand that decides. -/
inductive Connective where
  | both
  | either
deriving DecidableEq, Repr

/-- Expressions. A call has arguments by position and by name, and so have filters and tests,
whose subject comes first. -/
inductive Expr where
  | literal (value : Datum)
  | name (word : String)
  | list (items : List Expr)
  | member (target : Expr) (word : String)
  | item (target index : Expr)
  | call (function : Expr) (placed : List Expr) (named : List (String × Expr))
  | filter (subject : Expr) (word : String) (placed : List Expr) (named : List (String × Expr))
  | test (subject : Expr) (word : String) (placed : List Expr) (named : List (String × Expr))
  | signed (negative : Bool) (operand : Expr)
  | arithmetic (operator : Arithmetic) (left right : Expr)
  | texts (pieces : List Expr)
  | compared (first : Expr) (others : List (Comparison × Expr))
  | negation (operand : Expr)
  | connected (connective : Connective) (left right : Expr)

instance : Inhabited Expr := ⟨.literal .null⟩

/-- The parameters of a routine, with their defaults. -/
abbrev Parameters := List (String × Option Expr)

/-- Statements. A routine is a named body with parameters, and a call block passes such a body,
unnamed, to what it calls. -/
inductive Stmt where
  | data (text : String)
  | print (value : Expr)
  | branch (cases : List (Expr × List Stmt)) (otherwise : List Stmt)
  | loop (target : String) (items : Expr) (body otherwise : List Stmt)
  | assign (target : String) (value : Expr)
  | capture (target : String) (body : List Stmt)
  | routine (word : String) (parameters : Parameters) (body : List Stmt)
  | callBlock (parameters : Parameters) (function : Expr) (placed : List Expr)
      (named : List (String × Expr)) (body : List Stmt)
  | embed (template : Expr)
  | take (template : Expr) (words : List (String × String)) (line : Nat)

instance : Inhabited Stmt := ⟨.data ""⟩

/-- What is called with parameters: a routine, or without a name the body of a call block. -/
structure Routine where
  word : Option String
  parameters : Parameters
  body : List Stmt

/-- How a name is mentioned. -/
inductive Access where
  | read
  | write
  | parameter
deriving DecidableEq, Repr

/-- A name as it is mentioned. -/
structure Mention where
  word : String
  access : Access
deriving DecidableEq, Repr

mutual

/-- The names that an expression mentions, in order. -/
def Expr.mentions : Expr → List Mention
  | .literal _ => []
  | .name word => [⟨word, .read⟩]
  | .list items => mentionsOfAll items
  | .member target _ => target.mentions
  | .item target index => target.mentions ++ index.mentions
  | .call function placed named =>
    function.mentions ++ mentionsOfAll placed ++ mentionsOfNamed named
  | .filter subject _ placed named =>
    subject.mentions ++ mentionsOfAll placed ++ mentionsOfNamed named
  | .test subject _ placed named =>
    subject.mentions ++ mentionsOfAll placed ++ mentionsOfNamed named
  | .signed _ operand => operand.mentions
  | .arithmetic _ left right => left.mentions ++ right.mentions
  | .texts pieces => mentionsOfAll pieces
  | .compared first others => first.mentions ++ mentionsOfCompared others
  | .negation operand => operand.mentions
  | .connected _ left right => left.mentions ++ right.mentions

/-- The names that expressions mention. -/
def mentionsOfAll : List Expr → List Mention
  | [] => []
  | expr :: rest => expr.mentions ++ mentionsOfAll rest

/-- The names that named arguments mention. -/
def mentionsOfNamed : List (String × Expr) → List Mention
  | [] => []
  | (_, expr) :: rest => expr.mentions ++ mentionsOfNamed rest

/-- The names that the operands of comparisons mention. -/
def mentionsOfCompared : List (Comparison × Expr) → List Mention
  | [] => []
  | (_, expr) :: rest => expr.mentions ++ mentionsOfCompared rest

end

/-- The names that the defaults of parameters mention. -/
def mentionsOfDefaults (parameters : Parameters) : List Mention :=
  parameters.flatMap fun parameter =>
    match parameter.2 with
    | some default => default.mentions
    | none => []

/-- The names that parameters mention: all of their own, then those of their defaults. -/
def mentionsOfParameters (parameters : Parameters) : List Mention :=
  (parameters.map fun parameter => ⟨parameter.1, .parameter⟩) ++ mentionsOfDefaults parameters

mutual

/-- The names that a statement mentions, a target before what it is set to. -/
def Stmt.mentions : Stmt → List Mention
  | .data _ => []
  | .print value => value.mentions
  | .branch cases otherwise => mentionsOfCases cases ++ mentionsOfBody otherwise
  | .loop target items body otherwise =>
    ⟨target, .write⟩ :: items.mentions ++ mentionsOfBody body ++ mentionsOfBody otherwise
  | .assign target value => ⟨target, .write⟩ :: value.mentions
  | .capture target body => ⟨target, .write⟩ :: mentionsOfBody body
  | .routine _ parameters body => mentionsOfParameters parameters ++ mentionsOfBody body
  | .callBlock parameters function placed named body =>
    (Expr.call function placed named).mentions ++ mentionsOfParameters parameters ++
      mentionsOfBody body
  | .embed template => template.mentions
  | .take template _ _ => template.mentions

/-- The names that statements mention. -/
def mentionsOfBody : List Stmt → List Mention
  | [] => []
  | stmt :: rest => stmt.mentions ++ mentionsOfBody rest

/-- The names that the cases of a branch mention. -/
def mentionsOfCases : List (Expr × List Stmt) → List Mention
  | [] => []
  | (condition, body) :: rest =>
    condition.mentions ++ mentionsOfBody body ++ mentionsOfCases rest

end

/-- Tests whether statements read a name before they set it themselves. -/
def readsFirst (word : String) (body : List Stmt) : Bool :=
  match (mentionsOfBody body).find? fun mention => mention.word == word with
  | some mention => mention.access = .read
  | none => false

/-- The name under which a call block passes its body, and under which a routine reads it. -/
def callerWord : String := "caller"

/-- The name of the state of a loop inside its body. -/
def loopWord : String := "loop"

/-- Tests whether a routine takes the body of a call block. -/
def Routine.usesCaller (routine : Routine) : Bool := readsFirst callerWord routine.body

end Stencil.Template
