import Stencil.Failure

/-! Tokens of a template: the pieces into which its source is cut, and the words that name them. -/

namespace Stencil.Template

/-- The pieces of a template source. A fault stands where the source cannot be cut any further;
it counts only when reading gets there. -/
inductive Token where
  | data (text : String)
  | printOpen
  | printClose
  | blockOpen
  | blockClose
  | name (word : String)
  | text (value : String)
  | integer (value : Nat)
  | float (value : Float)
  | mark (symbol : String)
  | finish
  | fault (failure : Failure)

instance : Inhabited Token := ⟨.finish⟩

/-- A token with the number of the line on which it starts. -/
structure Lexeme where
  token : Token
  line : Nat

/-- The marks of expressions; where one begins another, the longer one stands first. -/
def marks : List String :=
  ["**", "//", "==", "!=", ">=", "<=", "+", "-", "/", "*", "%", "~", "[", "]", "(", ")", "\x7b",
    "\x7d", ">", "<", "=", ".", ":", "|", ",", ";"]

/-- What a reader may ask for at one place. -/
inductive Wanted where
  | printClose
  | blockClose
  | anyName
  | word (name : String)
  | mark (symbol : String)
deriving DecidableEq, Repr

namespace Token

/-- The words that name a token in messages. -/
def describe : Token → String
  | data _ => "template data / text"
  | printOpen => "begin of print statement"
  | printClose => "end of print statement"
  | blockOpen => "begin of statement block"
  | blockClose => "end of statement block"
  | name word => word
  | text _ => "string"
  | integer _ => "integer"
  | float _ => "float"
  | mark symbol => symbol
  | finish => "end of template"
  | fault failure => failure.message

/-- Tests for a certain name. -/
def isName (token : Token) (word : String) : Bool :=
  match token with
  | name other => other == word
  | _ => false

/-- Tests for a certain mark. -/
def isMark (token : Token) (symbol : String) : Bool :=
  match token with
  | mark other => other == symbol
  | _ => false

/-- Tests for the end of a template. -/
def isFinish : Token → Bool
  | finish => true
  | _ => false

end Token

namespace Wanted

/-- Tests whether a token is what is asked for. -/
def accepts : Wanted → Token → Bool
  | printClose, .printClose => true
  | blockClose, .blockClose => true
  | anyName, .name _ => true
  | word name, token => token.isName name
  | mark symbol, token => token.isMark symbol
  | _, _ => false

/-- The words that name in messages what is asked for. -/
def describe : Wanted → String
  | printClose => Token.printClose.describe
  | blockClose => Token.blockClose.describe
  | anyName => "name"
  | word name => name
  | mark symbol => symbol

end Wanted

end Stencil.Template
