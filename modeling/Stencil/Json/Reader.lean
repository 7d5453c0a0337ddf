import Stencil.Datum
import Stencil.Json.Fault

/-! Reading JSON: one value per text, with the names for infinities and for no number. -/

namespace Stencil.Json

/-- Where reading stopped: the rest of the text from the fault on. -/
inductive Stop where
  | syntaxAt (expected : Expectation) (rest : List Char)
  | integerTooLong (digits : Nat)

/-- A reader takes the front of a text and leaves the rest. -/
abbrev Reader (α : Type) := List Char → Except Stop (α × List Char)

/-- The blanks between the tokens of JSON. -/
def isGap (c : Char) : Bool := c == ' ' || c == '\t' || c == '\n' || c == '\r'

/-- Skips the blanks at the front. -/
def skipGap (chars : List Char) : List Char := chars.dropWhile isGap

/-- The value of a digit of base sixteen. -/
def hexValue? (c : Char) : Option Nat :=
  if '0' ≤ c && c ≤ '9' then some (c.toNat - '0'.toNat)
  else if 'a' ≤ c && c ≤ 'f' then some (c.toNat - 'a'.toNat + 10)
  else if 'A' ≤ c && c ≤ 'F' then some (c.toNat - 'A'.toNat + 10)
  else none

/-- The number that the first four digits of base sixteen spell. -/
def hexUnit? (chars : List Char) : Option Nat :=
  (chars.take 4).foldlM (fun unit c => (hexValue? c).map (unit * 16 + ·)) 0

/-- The character that a one-letter escape stands for. -/
def escaped? (c : Char) : Option Char :=
  match c with
  | '"' => some '"'
  | '\\' => some '\\'
  | '/' => some '/'
  | 'b' => some '\x08'
  | 'f' => some '\x0c'
  | 'n' => some '\n'
  | 'r' => some '\r'
  | 't' => some '\t'
  | _ => none

/-- The character of a surrogate pair. -/
def pairChar (high low : Nat) : Char :=
  Char.ofNat (0x10000 + (high - 0xD800) * 0x400 + (low - 0xDC00))

/-- Reads the second unit of a pair, if an escape with one follows. -/
def secondUnit (chars : List Char) : Except Stop (Option Nat) :=
  match chars with
  | '\\' :: 'u' :: rest =>
    if rest.length ≤ 4 then .ok none
    else match hexUnit? rest with
      | none => .error (.syntaxAt .hexEscape ('u' :: rest))
      | some unit => .ok (some unit)
  | _ => .ok none

/-- Reads the characters of a string up to its closing quote; the opening one is given for
messages. -/
def stringBody (opening : List Char) (chars : List Char) :
    Except Stop (List Char × List Char) :=
  match chars with
  | [] => .error (.syntaxAt .closingQuote opening)
  | '"' :: rest => .ok ([], rest)
  | ['\\'] => .error (.syntaxAt .closingQuote opening)
  | '\\' :: 'u' :: rest =>
    if rest.length ≤ 4 then .error (.syntaxAt .hexEscape ('u' :: rest))
    else match hexUnit? rest with
      | none => .error (.syntaxAt .hexEscape ('u' :: rest))
      | some unit =>
        match if isHighSurrogate unit then secondUnit (rest.drop 4) else .ok none with
        | .error stop => .error stop
        | .ok second =>
          match second.filter isLowSurrogate with
          | some low =>
            (stringBody opening (rest.drop 10)).map fun read =>
              (pairChar unit low :: read.1, read.2)
          | none =>
            (stringBody opening (rest.drop 4)).map fun read => (unitChar unit :: read.1, read.2)
  | '\\' :: c :: rest =>
    match escaped? c with
    | none => .error (.syntaxAt .knownEscape ('\\' :: c :: rest))
    | some e => (stringBody opening rest).map fun read => (e :: read.1, read.2)
  | c :: rest =>
    if c.toNat < 0x20 then .error (.syntaxAt .noControl (c :: rest))
    else (stringBody opening rest).map fun read => (c :: read.1, read.2)
termination_by chars.length
decreasing_by all_goals simp only [List.length_cons, List.length_drop]; omega

/-- The whole number that digits of base ten spell. -/
def decimalValue (digits : List Char) : Nat :=
  digits.foldl (fun n c => n * 10 + (c.toNat - '0'.toNat)) 0

/-- Takes an exponent off the front if one is spelled out there. -/
def exponentPart (chars : List Char) : Option (Int × List Char) :=
  match chars with
  | c :: rest =>
    if c == 'e' || c == 'E' then
      let (negative, digits) := match rest with
        | '+' :: digits => (false, digits)
        | '-' :: digits => (true, digits)
        | digits => (false, digits)
      let spelled := digits.takeWhile Char.isDigit
      if spelled.isEmpty then none
      else
        let value : Int := decimalValue spelled
        some (if negative then -value else value, digits.dropWhile Char.isDigit)
    else none
  | [] => none

/-- Takes a fraction off the front if a point and a digit stand there. -/
def fractionPart (chars : List Char) : Option (List Char × List Char) :=
  match chars with
  | '.' :: rest =>
    let digits := rest.takeWhile Char.isDigit
    if digits.isEmpty then none else some (digits, rest.dropWhile Char.isDigit)
  | _ => none

/-- The digits before a point: a zero alone, or digits that start with another one. -/
def wholePart (chars : List Char) : Option (List Char × List Char) :=
  match chars with
  | '0' :: rest => some (['0'], rest)
  | c :: _ =>
    if c.isDigit then some (chars.takeWhile Char.isDigit, chars.dropWhile Char.isDigit) else none
  | [] => none

/-- Reads a number: an integer unless a fraction or an exponent makes it a double. -/
def number (chars : List Char) : Except Stop (Datum × List Char) :=
  let (negative, unsigned) := match chars with
    | '-' :: rest => (true, rest)
    | _ => (false, chars)
  match wholePart unsigned with
  | none => .error (.syntaxAt .value chars)
  | some (whole, rest) =>
    let fraction := fractionPart rest
    let (places, rest) := fraction.getD ([], rest)
    let power := exponentPart rest
    let (exponent, rest) := power.getD (0, rest)
    if fraction.isNone && power.isNone then
      if maxIntegerDigits < whole.length then .error (.integerTooLong whole.length)
      else
        let value : Int := decimalValue whole
        .ok (.int (if negative then -value else value), rest)
    else
      let digits := decimalValue (whole ++ places)
      let scale := exponent - places.length
      .ok (.float (Double.ofDecimal negative digits scale).toFloat, rest)

/-- The words that stand for values. -/
def literals : List (String × Datum) :=
  [("null", .null), ("true", .bool true), ("false", .bool false),
    ("NaN", .float Double.nan.toFloat), ("Infinity", .float (Double.infinite false).toFloat),
    ("-Infinity", .float (Double.infinite true).toFloat)]

/-- Reads a word or a number. -/
def scalar (chars : List Char) : Except Stop (Datum × List Char) :=
  match literals.find? fun literal => literal.1.toList.isPrefixOf chars with
  | some literal => .ok (literal.2, chars.drop literal.1.length)
  | none => number chars

mutual

/-- Reads a value; the first argument bounds the steps by the length of the text. -/
def value : Nat → Reader Datum
  | 0, chars => .error (.syntaxAt .value chars)
  | steps + 1, chars =>
    match chars with
    | '"' :: rest => (stringBody chars rest).map fun read =>
      (.text (String.ofList read.1), read.2)
    | '[' :: rest =>
      match skipGap rest with
      | ']' :: rest => .ok (.list [], rest)
      | rest => (items steps rest).map fun read => (.list read.1, read.2)
    | '\x7b' :: rest =>
      match skipGap rest with
      | '\x7d' :: rest => .ok (.dict [], rest)
      | rest => (members steps [] rest).map fun read => (.dict read.1, read.2)
    | _ => scalar chars

/-- Reads the items of a list up to its bracket. -/
def items : Nat → Reader (List Datum)
  | 0, chars => .error (.syntaxAt .value chars)
  | steps + 1, chars => do
    let (first, rest) ← value steps chars
    match skipGap rest with
    | ']' :: rest => .ok ([first], rest)
    | ',' :: rest =>
      let (others, rest) ← items steps (skipGap rest)
      .ok (first :: others, rest)
    | rest => .error (.syntaxAt .comma rest)

/-- Reads the members of a dictionary up to its brace, adding them to the earlier ones. -/
def members : Nat → List (String × Datum) → Reader (List (String × Datum))
  | 0, _, chars => .error (.syntaxAt .propertyName chars)
  | steps + 1, earlier, chars => do
    match chars with
    | '"' :: body =>
      let (key, rest) ← stringBody chars body
      match skipGap rest with
      | ':' :: rest =>
        let (read, rest) ← value steps (skipGap rest)
        let entries := putEntry (String.ofList key) read earlier
        match skipGap rest with
        | '\x7d' :: rest => .ok (entries, rest)
        | ',' :: rest => members steps entries (skipGap rest)
        | rest => .error (.syntaxAt .comma rest)
      | rest => .error (.syntaxAt .colon rest)
    | _ => .error (.syntaxAt .propertyName chars)

end

/-- Reads one value with nothing but blanks around it. -/
def wholeText (chars : List Char) : Except Stop Datum := do
  if chars.head? == some '\uFEFF' then .error (.syntaxAt .noByteOrderMark chars)
  let (read, rest) ← value (2 * chars.length + 2) (skipGap chars)
  match skipGap rest with
  | [] => .ok read
  | rest => .error (.syntaxAt .noMore rest)

/-- Reads a text as one JSON value. -/
def read (text : String) : Except Fault Datum :=
  let chars := text.toList
  match wholeText chars with
  | .ok datum => .ok datum
  | .error (.integerTooLong digits) => .error (.integerTooLong digits)
  | .error (.syntaxAt expected rest) =>
    .error (.syntaxAt expected (.after (chars.take (chars.length - rest.length))))

end Stencil.Json
