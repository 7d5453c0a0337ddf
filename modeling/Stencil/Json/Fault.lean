/-! Faults of JSON texts: what was expected, and the place in lines, columns and characters. -/

namespace Stencil.Json

/-- What a reader of JSON may miss. -/
inductive Expectation where
  | value
  | propertyName
  | colon
  | comma
  | noMore
  | closingQuote
  | noControl
  | knownEscape
  | hexEscape
  | noByteOrderMark
deriving DecidableEq, Repr

/-- The wording of what is missing or in the way. -/
def Expectation.message : Expectation → String
  | value => "Expecting value"
  | propertyName => "Expecting property name enclosed in double quotes"
  | colon => "Expecting ':' delimiter"
  | comma => "Expecting ',' delimiter"
  | noMore => "Extra data"
  | closingQuote => "Unterminated string starting at"
  | noControl => "Invalid control character at"
  | knownEscape => "Invalid \\escape"
  | hexEscape => "Invalid \\uXXXX escape"
  | noByteOrderMark => "Unexpected UTF-8 BOM (decode using utf-8-sig)"

/-- A place in a text: characters before it, and its line and column counted from one. -/
structure Place where
  offset : Nat
  line : Nat
  column : Nat
deriving DecidableEq, Repr

/-- The place after the given characters; only a line feed starts a line. -/
def Place.after (before : List Char) : Place :=
  let lastLine := before.reverse.takeWhile (· != '\n')
  ⟨before.length, before.count '\n' + 1, lastLine.length + 1⟩

/-- Why a text is no JSON value. -/
inductive Fault where
  | syntaxAt (expected : Expectation) (place : Place)
  | integerTooLong (digits : Nat)
deriving DecidableEq, Repr

/-- The number of digits that an integer may have. -/
def maxIntegerDigits : Nat := 4300

/-- The wording of a fault. -/
def Fault.message : Fault → String
  | .syntaxAt expected place =>
    s!"{expected.message}: line {place.line} column {place.column} (char {place.offset})"
  | .integerTooLong digits =>
    s!"Exceeds the limit ({maxIntegerDigits} digits) for integer string conversion: " ++
      s!"value has {digits} digits; use sys.set_int_max_str_digits() to increase the limit"

end Stencil.Json
