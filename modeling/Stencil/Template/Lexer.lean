import Stencil.Template.Literal
import Stencil.Template.Token
import Stencil.Text.LineBreak
import Stencil.Text.Word

/-! Cutting the source of a template into tokens: plain text, the tags in it, and their insides. -/

namespace Stencil.Template

/-- A place in a source: what follows, the characters before, and the number of the line. -/
structure Cursor where
  rest : List Char
  offset : Nat
  line : Nat

/-- The line feeds among some characters. -/
def countFeeds (chars : List Char) : Nat := chars.countP (· == '\n')

/-- The place some characters further on. -/
def Cursor.skip (cursor : Cursor) (count : Nat) : Cursor :=
  ⟨cursor.rest.drop count, cursor.offset + count,
    cursor.line + countFeeds (cursor.rest.take count)⟩

/-- What the sign at the edge of a tag does to the blanks beside it. -/
inductive Edge where
  | plain
  | strip
  | keep
deriving DecidableEq, Repr

/-- The openings at which plain text ends. -/
inductive Opening where
  | print
  | block
  | comment
  | raw
deriving DecidableEq, Repr

/-- The two kinds of tag that hold tokens. -/
inductive Tag where
  | print
  | block
deriving DecidableEq, Repr

/-- An opening or a closing that was found: what it is, its sign, and its length. -/
structure Edged (α : Type) where
  what : α
  edge : Edge
  length : Nat

/-- Counts the blanks at the front. -/
def blankRun (chars : List Char) : Nat := (chars.takeWhile isBlank).length

/-- What follows a text at the front, if it stands there. -/
def after? (text : String) (chars : List Char) : Option (List Char) :=
  if text.toList.isPrefixOf chars then some (chars.drop text.length) else none

/-- The sign at the front, with its length. -/
def edgeAt : List Char → Edge × Nat
  | '-' :: _ => (.strip, 1)
  | '+' :: _ => (.keep, 1)
  | _ => (.plain, 0)

/-- The length of a closing: a minus takes the blanks after it along. -/
def plainClosing? (closing : String) (chars : List Char) : Option Nat :=
  match after? ("-" ++ closing) chars with
  | some rest => some (1 + closing.length + blankRun rest)
  | none => (after? closing chars).map fun _ => closing.length

/-- The length of a closing that also takes one line feed along, unless a plus forbids it. -/
def trimmedClosing? (closing : String) (chars : List Char) : Option Nat :=
  match after? ("+" ++ closing) chars, after? ("-" ++ closing) chars with
  | some _, _ => some (1 + closing.length)
  | none, some rest => some (1 + closing.length + blankRun rest)
  | none, none => (after? closing chars).map fun rest =>
    closing.length + if rest.head? == some '\n' then 1 else 0

/-- The closing of the tags of a kind. -/
def Tag.closing? (tag : Tag) (chars : List Char) : Option Nat :=
  match tag with
  | print => plainClosing? "\x7d\x7d" chars
  | block => trimmedClosing? "%\x7d" chars

/-- The token that closes the tags of a kind. -/
def Tag.closingToken : Tag → Token
  | print => .printClose
  | block => .blockClose

/-- Finds a block tag at the front that holds one word, given how it closes. -/
def wordTag? (word : String) (closing : List Char → Option Nat) (chars : List Char) :
    Option (Edged Unit) := do
  let inside ← after? "\x7b%" chars
  let (edge, signLength) := edgeAt inside
  let signed := inside.drop signLength
  let named ← after? word (signed.dropWhile isBlank)
  let gap := blankRun named
  let closed ← closing (named.drop gap)
  return ⟨(), edge, 2 + signLength + blankRun signed + word.length + gap + closed⟩

/-- The tag at the front that opens raw text. -/
def rawOpening? : List Char → Option (Edged Unit) := wordTag? "raw" (plainClosing? "%\x7d")

/-- The tag at the front that closes raw text. -/
def rawClosing? : List Char → Option (Edged Unit) := wordTag? "endraw" (trimmedClosing? "%\x7d")

/-- An opening of two characters and a sign. -/
def opened (what : Opening) (rest : List Char) : Edged Opening :=
  ⟨what, (edgeAt rest).1, 2 + (edgeAt rest).2⟩

/-- The opening at the front. -/
def openingAt? (chars : List Char) : Option (Edged Opening) :=
  match chars with
  | '\x7b' :: '\x7b' :: rest => some (opened .print rest)
  | '\x7b' :: '#' :: rest => some (opened .comment rest)
  | '\x7b' :: '%' :: rest =>
    match rawOpening? chars with
    | some raw => some ⟨.raw, raw.edge, raw.length⟩
    | none => some (opened .block rest)
  | _ => none

/-- Finds the first place where something stands, with the characters before it. -/
def search {α : Type} (find : List Char → Option α) : List Char → Option (List Char × α)
  | [] => none
  | c :: rest =>
    match find (c :: rest) with
    | some found => some ([], found)
    | none => (search find rest).map fun later => (c :: later.1, later.2)

/-- Drops the blanks after the last line feed, if nothing else follows it; the front counts as
the start of a line only if told so. -/
def dropIndent (atLineStart : Bool) (chars : List Char) : List Char :=
  let tail := (chars.reverse.takeWhile (· != '\n')).reverse
  let starts := atLineStart || tail.length < chars.length
  if starts && tail.all isBlank then chars.take (chars.length - tail.length) else chars

/-- The plain text that is kept before a tag. -/
def keptBefore (edge : Edge) (indents atLineStart : Bool) (chars : List Char) : List Char :=
  match edge with
  | .strip => dropEndWhile isBlank chars
  | .keep => chars
  | .plain => if indents then dropIndent atLineStart chars else chars

/-- The token of plain text, if there is any. -/
def dataLexemes (chars : List Char) (line : Nat) : List Lexeme :=
  if chars.isEmpty then [] else [⟨.data (String.ofList chars), line⟩]

/-- A fault of the source at a place. -/
def faultAt (cursor : Cursor) (text : String) : List Lexeme :=
  [⟨.fault (.template .badSyntax text), cursor.line⟩]

/-- The end of the source at a place. -/
def finishAt (cursor : Cursor) : List Lexeme := [⟨.finish, cursor.line⟩]

/-- Tests whether a stretch of a given length ends with a line feed. -/
def endsLine (cursor : Cursor) (length : Nat) : Bool :=
  (cursor.rest.take length).getLast? == some '\n'

/-- The bracket that closes another one. -/
def closingBracket? (symbol : String) : Option String :=
  if symbol == "(" then some ")"
  else if symbol == "[" then some "]"
  else if symbol == "\x7b" then some "\x7d"
  else none

/-- The brackets that are open after a mark, innermost first, or the wording of a misfit. -/
def balance (brackets : List String) (symbol : String) : Except String (List String) :=
  match closingBracket? symbol with
  | some closing => .ok (closing :: brackets)
  | none =>
    if symbol == ")" || symbol == "]" || symbol == "\x7d" then
      match brackets with
      | [] => .error s!"unexpected '{symbol}'"
      | expected :: outer =>
        if expected == symbol then .ok outer
        else .error s!"unexpected '{symbol}', expected '{expected}'"
    else .ok brackets

/-- The name, number or quoted text at the front, with its length. A number right after a point
has no fraction. -/
def wordToken? (afterPoint : Bool) (chars : List Char) : Option (Token × Nat) :=
  match if afterPoint then none else Literal.float? chars with
  | some (value, length) => some (.float value, length)
  | none =>
    match Literal.integer? chars with
    | some (value, length) => some (.integer value, length)
    | none =>
      match chars with
      | [] => none
      | c :: rest =>
        if isWordChar c then
          let word := chars.takeWhile isWordChar
          some (.name (String.ofList word), word.length)
        else if c == '"' || c == '\x27' then
          (Literal.quotedRun c rest).map fun length =>
            match Literal.textOf (rest.take (length - 1)) with
            | .ok value => (.text value, length + 1)
            | .error failure => (.fault failure, length + 1)
        else none

/-- The mark at the front. -/
def markAt? (chars : List Char) : Option String :=
  marks.find? fun symbol => symbol.toList.isPrefixOf chars

/-- Where cutting is: in plain text, in raw text, in a comment, or in a tag whose open brackets
have to be closed before it can end. -/
inductive Mode where
  | plain (atLineStart : Bool)
  | raw (atLineStart : Bool)
  | comment
  | tag (tag : Tag) (brackets : List String) (afterPoint : Bool)

/-- What one step yields: some tokens, and where cutting goes on unless it ended. -/
structure Cut where
  lexemes : List Lexeme
  next : Option (Mode × Cursor)

/-- Cuts plain text up to the next opening. -/
def cutPlain (atLineStart : Bool) (cursor : Cursor) : Cut :=
  match search openingAt? cursor.rest with
  | none => ⟨dataLexemes cursor.rest cursor.line ++ finishAt cursor, none⟩
  | some (before, opening) =>
    let kept := keptBefore opening.edge (opening.what != .print) atLineStart before
    let start := cursor.skip before.length
    let inside := start.skip opening.length
    let data := dataLexemes kept cursor.line
    match opening.what with
    | .print => ⟨data ++ [⟨.printOpen, start.line⟩], some (.tag .print [] false, inside)⟩
    | .block => ⟨data ++ [⟨.blockOpen, start.line⟩], some (.tag .block [] false, inside)⟩
    | .comment => ⟨data, some (.comment, inside)⟩
    | .raw => ⟨data, some (.raw (endsLine start opening.length), inside)⟩

/-- Skips a comment. -/
def cutComment (cursor : Cursor) : Cut :=
  match search (trimmedClosing? "#\x7d") cursor.rest with
  | some (before, closing) =>
    let length := before.length + closing
    ⟨[], some (.plain (endsLine cursor length), cursor.skip length)⟩
  | none =>
    if cursor.rest.isEmpty then ⟨finishAt cursor, none⟩
    else ⟨faultAt cursor "Missing end of comment tag", none⟩

/-- Cuts raw text up to its closing. -/
def cutRaw (atLineStart : Bool) (cursor : Cursor) : Cut :=
  match search rawClosing? cursor.rest with
  | some (before, closing) =>
    let kept := keptBefore closing.edge true atLineStart before
    let length := before.length + closing.length
    ⟨dataLexemes kept cursor.line, some (.plain (endsLine cursor length), cursor.skip length)⟩
  | none =>
    if cursor.rest.isEmpty then ⟨finishAt cursor, none⟩
    else ⟨faultAt cursor "Missing end of raw directive", none⟩

/-- Cuts one token inside a tag. -/
def cutToken (tag : Tag) (brackets : List String) (afterPoint : Bool) (cursor : Cursor) : Cut :=
  match wordToken? afterPoint cursor.rest with
  | some (token, length) =>
    ⟨[⟨token, cursor.line⟩], some (.tag tag brackets false, cursor.skip length)⟩
  | none =>
    match markAt? cursor.rest, cursor.rest with
    | some symbol, _ =>
      match balance brackets symbol with
      | .ok after =>
        ⟨[⟨.mark symbol, cursor.line⟩],
          some (.tag tag after (symbol == "."), cursor.skip symbol.length)⟩
      | .error text => ⟨faultAt cursor text, none⟩
    | none, [] => ⟨finishAt cursor, none⟩
    | none, c :: _ =>
      ⟨faultAt cursor s!"unexpected char {quote (String.singleton c)} at {cursor.offset}", none⟩

/-- Cuts the inside of a tag: its closing, a run of blanks, or one token. -/
def cutTag (tag : Tag) (brackets : List String) (afterPoint : Bool) (cursor : Cursor) : Cut :=
  match if brackets.isEmpty then tag.closing? cursor.rest else none with
  | some length =>
    ⟨[⟨tag.closingToken, cursor.line⟩], some (.plain (endsLine cursor length), cursor.skip length)⟩
  | none =>
    let blanks := blankRun cursor.rest
    if blanks == 0 then cutToken tag brackets afterPoint cursor
    else ⟨[], some (.tag tag brackets false, cursor.skip blanks)⟩

/-- One step of cutting. -/
def cut (mode : Mode) (cursor : Cursor) : Cut :=
  match mode with
  | .plain atLineStart => cutPlain atLineStart cursor
  | .raw atLineStart => cutRaw atLineStart cursor
  | .comment => cutComment cursor
  | .tag tag brackets afterPoint => cutTag tag brackets afterPoint cursor

/-- Cuts until the end or the first fault. Every step but those that end takes a character, so
the length of the source bounds their number. -/
def cutAll : Nat → Mode → Cursor → List Lexeme
  | 0, _, cursor => finishAt cursor
  | steps + 1, mode, cursor =>
    match cut mode cursor with
    | ⟨lexemes, none⟩ => lexemes
    | ⟨lexemes, some (next, further)⟩ => lexemes ++ cutAll steps next further

/-- The tokens of a template source, the last of which is its end or a fault. -/
def tokens (source : String) : List Lexeme :=
  let chars := (unifyBreaks source).toList
  cutAll (chars.length + 1) (.plain true) ⟨chars, 0, 1⟩

end Stencil.Template
