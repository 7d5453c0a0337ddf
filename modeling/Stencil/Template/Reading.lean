import Stencil.Template.Lexer

/-! Reading tokens one by one: the current token, the next one, and what may be asked of them. -/

namespace Stencil.Template

/-- A reader of tokens, which stops at the first failure. -/
abbrev Reading (α : Type) := StateT (List Lexeme) (Except Failure) α

namespace Reading

/-- Stops with a fault of the source. -/
def refuse {α : Type} (text : String) : Reading α := throw (.template .badSyntax text)

/-- Checks that the first token is no fault: it is reached now. -/
def reached (lexemes : List Lexeme) : Except Failure (List Lexeme) :=
  match lexemes with
  | ⟨.fault failure, _⟩ :: _ => .error failure
  | _ => .ok lexemes

/-- The current lexeme; past the last one the end is current. -/
def here : Reading Lexeme := return (← get).headD ⟨.finish, 1⟩

/-- The current token. -/
def current : Reading Token := return (← here).token

/-- Goes on to the next token; the end is never left. -/
def advance : Reading Unit := do
  match ← get with
  | _ :: next :: rest => set (← liftM (reached (next :: rest)))
  | _ => pure ()

/-- The token after the current one. -/
def following : Reading Token := do
  match ← get with
  | _ :: next :: _ =>
    let _ ← liftM (reached [next])
    return next.token
  | _ => return .finish

/-- Takes the current token, which has to be what is wanted. -/
def expect (wanted : Wanted) : Reading Unit := do
  let token ← current
  if wanted.accepts token then advance
  else if token.isFinish then
    refuse s!"unexpected end of template, expected {quote wanted.describe}."
  else refuse s!"expected token {quote wanted.describe}, got {quote token.describe}"

/-- Takes the current token if it is what is wanted, and tells whether it was. -/
def skipIf (wanted : Wanted) : Reading Bool := do
  if wanted.accepts (← current) then
    advance
    return true
  else return false

/-- Takes a name. -/
def anyName : Reading String := do
  match ← current with
  | .name word =>
    advance
    return word
  | _ =>
    expect .anyName
    return ""

/-- Tests whether the current token is a certain mark. -/
def atMark (symbol : String) : Reading Bool := return (← current).isMark symbol

/-- Runs a reader on tokens from their start. -/
def start {α : Type} (reading : Reading α) (lexemes : List Lexeme) : Except Failure α := do
  let (value, _) ← reading.run (← reached lexemes)
  return value

end Reading

end Stencil.Template
