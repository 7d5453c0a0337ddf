import Stencil.Text.Blank

/-! Line breaks: cutting text into lines, and making all breaks line feeds. -/

namespace Stencil

/-- The characters that end a line. -/
def isLineBreak (c : Char) : Bool :=
  let n := c.toNat
  (0x0A ≤ n && n ≤ 0x0D) || (0x1C ≤ n && n ≤ 0x1E) || n == 0x85 || n == 0x2028 || n == 0x2029

/-- Cuts at line breaks, a carriage return before a line feed being one break with it. -/
def linesOf : List Char → List (List Char)
  | [] => []
  | '\r' :: '\n' :: rest => [] :: linesOf rest
  | c :: rest =>
    if isLineBreak c then [] :: linesOf rest
    else match linesOf rest with
      | [] => [[c]]
      | line :: lines => (c :: line) :: lines

/-- The lines of a text without their breaks; a break at the end opens no further line. -/
def lines (text : String) : List String := (linesOf text.toList).map String.ofList

/-- Writes every carriage return, with the line feed that may follow it, as one line feed. -/
def unifyBreaksOf : List Char → List Char
  | [] => []
  | '\r' :: '\n' :: rest => '\n' :: unifyBreaksOf rest
  | c :: rest => (if c == '\r' then '\n' else c) :: unifyBreaksOf rest

/-- Makes line feeds of all carriage returns, alone or paired. -/
def unifyBreaks (text : String) : String := String.ofList (unifyBreaksOf text.toList)

end Stencil
