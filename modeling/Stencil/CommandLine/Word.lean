import Stencil.CommandLine.Option
import Stencil.Text.Blank

/-! The words of the command line, each read by itself: options, values and what is neither. -/

namespace Stencil.CommandLine

/-- A value attached to an option in the same word, behind an equals sign or directly. -/
structure Attachment where
  byEquals : Bool
  value : String
deriving DecidableEq, Repr

/-- What a word is. -/
inductive Word where
  | plain (text : String)
  | divider
  | unknown (text : String)
  | option (short : Bool) (name : OptionName) (attached : Option Attachment)
deriving DecidableEq, Repr

/-- The word after which all words are plain. -/
def dividerText : String := "--"

/-- Tests for the spellings that start with a single dash. -/
def isShort (spelling : String) : Bool := !startsWith spelling "--"

/-- The part of a word before its first equals sign, and the part after it where there is one. -/
def cutWord (text : String) : String × Option String :=
  let chars := text.toList
  let head := String.ofList (chars.takeWhile (· != '='))
  match chars.dropWhile (· != '=') with
  | [] => (head, none)
  | _ :: value => (head, some (String.ofList value))

/-- Tests for negative numbers, which are no options; a line break may follow. -/
def isNegativeNumber (text : String) : Bool :=
  let chars := text.toList
  let body := if chars.getLast? == some '\n' then chars.dropLast else chars
  match body with
  | '-' :: rest =>
    match rest.dropWhile Char.isDigit with
    | [] => !rest.isEmpty
    | '.' :: fraction => !fraction.isEmpty && fraction.all Char.isDigit
    | _ => false
  | _ => false

/-- The word of an option with the value behind its equals sign. -/
def optionWord (spelling : String) (name : OptionName) (value : Option String) : Word :=
  .option (isShort spelling) name (value.map fun text => ⟨true, text⟩)

/-- The long option that a word shortens; several candidates are a fault. -/
def longOption? (text : String) : Except Fault (Option Word) :=
  let (start, value) := cutWord text
  match spellings.filter fun entry => startsWith entry.1 start with
  | [] => .ok none
  | [(spelling, name)] => .ok (some (optionWord spelling name value))
  | several => .error (.ambiguous text (several.map Prod.fst))

/-- The short option with which a word starts, the rest of the word attached to it. -/
def shortOption? (text : String) : Option Word :=
  let chars := text.toList
  (OptionName.ofSpelling? (String.ofList (chars.take 2))).map fun name =>
    .option true name (some ⟨false, String.ofList (chars.drop 2)⟩)

/-- An option that a word stands for without being a spelling of it. -/
def impliedOption? (text : String) : Except Fault (Option Word) :=
  if isShort text then .ok (shortOption? text) else longOption? text

/-- What a word that names no option is. -/
def stranger (text : String) : Word :=
  if isNegativeNumber text || text.toList.contains ' ' then .plain text else .unknown text

/-- The option that a word spells out, with the value behind its equals sign. -/
def spelledOption? (text : String) : Option Word :=
  match OptionName.ofSpelling? text with
  | some name => some (optionWord text name none)
  | none =>
    match cutWord text with
    | (start, some value) => (OptionName.ofSpelling? start).map fun name =>
      optionWord start name (some value)
    | (_, none) => none

/-- Reads a word by itself. -/
def Word.read (text : String) : Except Fault Word :=
  if !startsWith text "-" || text == "-" then .ok (.plain text)
  else match spelledOption? text with
    | some word => .ok word
    | none => do return (← impliedOption? text).getD (stranger text)

/-- Reads all words; those behind the divider are plain. -/
def readWords : List String → Except Fault (List Word)
  | [] => .ok []
  | text :: rest =>
    if text == dividerText then .ok (.divider :: rest.map Word.plain)
    else do return (← Word.read text) :: (← readWords rest)

end Stencil.CommandLine
