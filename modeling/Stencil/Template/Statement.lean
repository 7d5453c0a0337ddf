import Stencil.Template.Expression

/-! Reading statements: bodies between tags, up to the tags that end them. -/

namespace Stencil.Template

/-- The tags around a place, innermost first, and the tags that would end each open body. -/
structure Nesting where
  tags : List String
  sought : List (List String)

namespace Nesting

/-- Inside a tag. -/
def inTag (nesting : Nesting) (tag : String) : Nesting :=
  { nesting with tags := tag :: nesting.tags }

/-- Inside a body that some tags end. -/
def inBody (nesting : Nesting) (ends : List String) : Nesting :=
  { nesting with sought := ends :: nesting.sought }

/-- The tags that are looked for now, in words. -/
def soughtText (nesting : Nesting) : String :=
  " or ".intercalate ((nesting.sought.headD []).map quote)

/-- The sentence about the tags that are looked for. -/
def soughtSentences (nesting : Nesting) (tag : Option String) : List String :=
  if nesting.sought.isEmpty then []
  else if tag.any fun word => nesting.sought.any fun ends => ends.contains word then
    ["You probably made a nesting mistake. Jinja is expecting this tag, but currently " ++
      s!"looking for {nesting.soughtText}."]
  else [s!"Jinja was looking for the following tags: {nesting.soughtText}."]

/-- The sentence about the innermost open tag. -/
def openSentences (nesting : Nesting) : List String :=
  match nesting.tags with
  | [] => []
  | tag :: _ => [s!"The innermost block that needs to be closed is {quote tag}."]

/-- The wording of a tag that has no place here, or of an end that comes too early. -/
def misfit (nesting : Nesting) (tag : Option String) : String :=
  let first := match tag with
    | some word => s!"Encountered unknown tag {quote word}."
    | none => "Unexpected end of template."
  " ".intercalate (first :: nesting.soughtSentences tag ++ nesting.openSentences)

/-- Tests whether a token ends the innermost body. -/
def endsBody (nesting : Nesting) (token : Token) : Bool :=
  (nesting.sought.headD []).any token.isName

end Nesting

namespace Reading

/-- The parameters of a routine or a call block, up to the closing parenthesis. -/
def parameterTail (fuel : Nat) : Nat → Bool → Bool → Reading Parameters
  | 0, _, _ => throw .tooDeep
  | steps + 1, first, defaults => do
    if ← skipIf (.mark ")") then return []
    if !first then expect (.mark ",")
    let word ← newName
    if ← skipIf (.mark "=") then
      let value ← expression fuel
      return (word, some value) :: (← parameterTail fuel steps false true)
    else
      if defaults then refuse "non-default argument follows default argument"
      return (word, none) :: (← parameterTail fuel steps false false)

/-- The parameters in parentheses. -/
def parameters (fuel : Nat) : Reading Parameters := do
  expect (.mark "(")
  parameterTail fuel fuel true false

/-- The names that are taken from another template, each with the name that it gets here. -/
def takenWords : Nat → Bool → Reading (List (String × String))
  | 0, _ => throw .tooDeep
  | steps + 1, first => do
    if !first then expect (.mark ",")
    let word ← newName
    if startsWith word "_" then
      throw (.template .badReference "names starting with an underline can not be imported")
    let here ← if ← skipIf (.word "as") then newName else pure word
    if ← atMark "," then return (word, here) :: (← takenWords steps false)
    else return [(word, here)]

mutual

/-- The statements of a body; its end becomes the current token. -/
def bodyOf (limit : Nat) : Nat → Nesting → Reading (List Stmt)
  | 0, _ => throw .tooDeep
  | fuel + 1, nesting => do
    match ← current with
    | .data text =>
      advance
      return .data text :: (← bodyOf limit fuel nesting)
    | .printOpen =>
      advance
      let value ← wholeExpression limit
      expect .printClose
      return .print value :: (← bodyOf limit fuel nesting)
    | .blockOpen =>
      advance
      if nesting.endsBody (← current) then return []
      else
        let stmt ← statement limit fuel nesting
        expect .blockClose
        return stmt :: (← bodyOf limit fuel nesting)
    | _ => return []

/-- A body inside a tag, from the end of that tag to one of the tags that end the body. -/
def block (limit : Nat) : Nat → Nesting → List String → Reading (List Stmt)
  | 0, _, _ => throw .tooDeep
  | fuel + 1, nesting, ends => do
    let _ ← skipIf (.mark ":")
    expect .blockClose
    let body ← bodyOf limit fuel (nesting.inBody ends)
    if (← current).isFinish then refuse ((nesting.inBody ends).misfit none)
    return body

/-- A body whose end is taken as well. -/
def wholeBlock (limit : Nat) : Nat → Nesting → String → Reading (List Stmt)
  | 0, _, _ => throw .tooDeep
  | fuel + 1, nesting, ending => do
    let body ← block limit fuel nesting [ending]
    advance
    return body

/-- The cases of a branch from a condition on, then what holds otherwise. -/
def cases (limit : Nat) : Nat → Nesting → Reading (List (Expr × List Stmt) × List Stmt)
  | 0, _ => throw .tooDeep
  | fuel + 1, nesting => do
    let condition ← wholeExpression limit
    let body ← block limit fuel nesting ["elif", "else", "endif"]
    if ← skipIf (.word "elif") then
      let (others, otherwise) ← cases limit fuel nesting
      return ((condition, body) :: others, otherwise)
    else if ← skipIf (.word "else") then
      return ([(condition, body)], ← wholeBlock limit fuel nesting "endif")
    else
      advance
      return ([(condition, body)], [])

/-- The statement of a tag, whose closing becomes the current token. -/
def statement (limit : Nat) : Nat → Nesting → Reading Stmt
  | 0, _ => throw .tooDeep
  | fuel + 1, nesting => do
    let lexeme ← here
    match lexeme.token with
    | .name "for" =>
      advance
      let inner := nesting.inTag "for"
      let word ← target limit ["in"]
      expect (.word "in")
      let items ← wholeExpression limit
      let body ← block limit fuel inner ["endfor", "else"]
      if ← skipIf (.word "else") then
        return .loop word items body (← wholeBlock limit fuel inner "endfor")
      else
        advance
        return .loop word items body []
    | .name "if" =>
      advance
      let (branches, otherwise) ← cases limit fuel (nesting.inTag "if")
      return .branch branches otherwise
    | .name "set" =>
      advance
      let word ← target limit []
      if ← skipIf (.mark "=") then return .assign word (← wholeExpression limit)
      else return .capture word (← wholeBlock limit fuel (nesting.inTag "set") "endset")
    | .name "macro" =>
      advance
      let word ← newName
      let declared ← parameters limit
      return .routine word declared (← wholeBlock limit fuel (nesting.inTag "macro") "endmacro")
    | .name "call" =>
      advance
      let declared ← if ← atMark "(" then parameters limit else pure []
      match ← expression limit with
      | .call function placed named =>
        let body ← wholeBlock limit fuel (nesting.inTag "call") "endcall"
        return .callBlock declared function placed named body
      | _ => refuse "expected call"
    | .name "include" =>
      advance
      return .embed (← expression limit)
    | .name "from" =>
      advance
      let template ← expression limit
      expect (.word "import")
      return .take template (← takenWords limit true) lexeme.line
    | .name word => refuse (nesting.misfit (some word))
    | _ => refuse "tag name expected"

end

/-- A whole template. -/
def wholeTemplate (limit : Nat) : Reading (List Stmt) := bodyOf limit limit ⟨[], []⟩

end Reading

/-- Reads the source of a template. No step of reading goes deeper than a few levels for each
token. -/
def parse (source : String) : Except Failure (List Stmt) :=
  let lexemes := tokens source
  Reading.start (Reading.wholeTemplate (16 * lexemes.length + 64)) lexemes

end Stencil.Template
