import Stencil.Text.Quoted

/-! Writing JSON: documents indented by two blanks, with escapes for all beyond visible ASCII. -/

namespace Stencil.Json

/-- The documents that are written: texts, truth values, lists and objects. -/
inductive Document where
  | text (value : String)
  | bool (value : Bool)
  | list (items : List Document)
  | object (members : List (String × Document))

/-- The escape of one sixteen-bit unit. -/
def unitEscape (unit : Nat) : List Char := '\\' :: 'u' :: hexDigits 4 unit

/-- One character inside a JSON string. -/
def stringChar (c : Char) : List Char :=
  let n := c.toNat
  if c == '"' then ['\\', '"']
  else if c == '\\' then ['\\', '\\']
  else if c == '\n' then ['\\', 'n']
  else if c == '\r' then ['\\', 'r']
  else if c == '\t' then ['\\', 't']
  else if n == 0x08 then ['\\', 'b']
  else if n == 0x0C then ['\\', 'f']
  else if 0x20 ≤ n && n < 0x7F then [c]
  else if n < 0x10000 then unitEscape n
  else
    let offset := n - 0x10000
    unitEscape (0xD800 + offset / 0x400) ++ unitEscape (0xDC00 + offset % 0x400)

/-- A JSON string. -/
def stringText (value : String) : String :=
  String.ofList ('"' :: value.toList.flatMap stringChar ++ ['"'])

/-- Lines between two brackets, indented one level more than the brackets. -/
def block (opening closing : String) (depth : Nat) (parts : List String) : String :=
  let indent (levels : Nat) := String.ofList ('\n' :: List.replicate (2 * levels) ' ')
  if parts.isEmpty then opening ++ closing
  else opening ++ indent (depth + 1) ++ ("," ++ indent (depth + 1)).intercalate parts ++
    indent depth ++ closing

namespace Document

mutual

/-- The text of a document at a depth of indentation. -/
def textAt (depth : Nat) : Document → String
  | .text value => stringText value
  | .bool value => if value then "true" else "false"
  | .list items => block "[" "]" depth (itemTexts (depth + 1) items)
  | .object members => block "\x7b" "\x7d" depth (memberTexts (depth + 1) members)

/-- The texts of the items of a list. -/
def itemTexts (depth : Nat) : List Document → List String
  | [] => []
  | item :: rest => item.textAt depth :: itemTexts depth rest

/-- The texts of the members of an object. -/
def memberTexts (depth : Nat) : List (String × Document) → List String
  | [] => []
  | (key, value) :: rest =>
    (stringText key ++ ": " ++ value.textAt depth) :: memberTexts depth rest

end

/-- The text of a document, without a line break at its end. -/
def toText (document : Document) : String := document.textAt 0

end Document

end Stencil.Json
