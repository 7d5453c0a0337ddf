import Stencil.Failure
import Stencil.Text.LineBreak

/-! Layout of generated source text: the formatters that run before a source is committed. -/

namespace Stencil

/-- A formatter of source text, which may refuse a text. -/
abbrev Formatter := String → Except Failure String

namespace Layout

/-- Puts line feeds between lines. -/
def joinLines : List (List Char) → List Char
  | [] => []
  | [line] => line
  | line :: lines => line ++ '\n' :: joinLines lines

/-- The number of line feeds that may follow one another. -/
def maxBreaks : Nat := 3

/-- Shortens longer runs of line feeds, given the number of those just passed. -/
def capBreaks (passed : Nat) : List Char → List Char
  | [] => []
  | c :: rest =>
    if c == '\n' then
      if passed < maxBreaks then c :: capBreaks (passed + 1) rest else capBreaks passed rest
    else c :: capBreaks 0 rest

/-- Removes the blanks at the end of every line. -/
def stripLineEnds (chars : List Char) : List Char :=
  joinLines ((cutAt (· == '\n') chars).map (dropEndWhile isBlank))

/-- Brings line breaks and blanks into the form of generated source. -/
def normalizeOf (chars : List Char) : List Char :=
  let body := dropEndsWhile (· == '\n') (capBreaks 0 (stripLineEnds (unifyBreaksOf chars)))
  if body.isEmpty then [] else body ++ ['\n']

/-- A source text with unified line breaks, no blanks at line ends, at most two empty lines in a
row, and exactly one line break at its end. -/
def normalize (text : String) : String := String.ofList (normalizeOf text.toList)

/-- The formatter that normalizes. -/
def normalizer : Formatter := fun text => .ok (normalize text)

/-- The formatter that changes nothing. -/
def unchanged : Formatter := .ok

end Layout

end Stencil
