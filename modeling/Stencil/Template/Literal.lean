import Stencil.Decimal.Binary
import Stencil.Failure

/-! Literals of templates: the values that numbers and quoted texts spell out. -/

namespace Stencil.Template.Literal

/-- Counts the digits at the front, single underscores between two of them included. -/
def digitRun (isDigit : Char → Bool) : List Char → Nat
  | [] => 0
  | c :: rest =>
    if isDigit c then digitRun isDigit rest + 1
    else match c, rest with
      | '_', next :: more => if isDigit next then digitRun isDigit more + 2 else 0
      | _, _ => 0

/-- The value of a digit in bases up to sixteen. -/
def digitValue (c : Char) : Nat :=
  if c.isDigit then c.toNat - '0'.toNat else c.toLower.toNat - 'a'.toNat + 10

/-- The number that digits spell in a base, underscores not counting. -/
def spelled (base : Nat) (digits : List Char) : Nat :=
  (digits.filter (· != '_')).foldl (fun n c => n * base + digitValue c) 0

/-- Counts the digits of a run that has to start with one. -/
def decimalRun : List Char → Nat
  | c :: rest => if c.isDigit then digitRun Char.isDigit rest + 1 else 0
  | [] => 0

/-- Counts the characters of a fraction at the front, its point included. -/
def fractionRun : List Char → Nat
  | '.' :: rest => if decimalRun rest == 0 then 0 else decimalRun rest + 1
  | _ => 0

/-- Counts the characters of an exponent at the front, its letter included. -/
def exponentRun : List Char → Nat
  | c :: rest =>
    if c == 'e' || c == 'E' then
      match rest with
      | sign :: digits =>
        if sign == '+' || sign == '-' then
          if decimalRun digits == 0 then 0 else decimalRun digits + 2
        else if decimalRun rest == 0 then 0
        else decimalRun rest + 1
      | [] => 0
    else 0
  | [] => 0

/-- The number that an exponent spells. -/
def exponentValue : List Char → Int
  | _ :: '-' :: digits => -Int.ofNat (spelled 10 digits)
  | _ :: '+' :: digits => Int.ofNat (spelled 10 digits)
  | _ :: digits => Int.ofNat (spelled 10 digits)
  | [] => 0

/-- Takes a number with a fraction or an exponent off the front, with its length. -/
def float? (chars : List Char) : Option (Float × Nat) :=
  let whole := decimalRun chars
  let afterWhole := chars.drop whole
  let fraction := fractionRun afterWhole
  let afterFraction := afterWhole.drop fraction
  let exponent := exponentRun afterFraction
  if whole == 0 || fraction + exponent == 0 then none
  else
    let places := ((afterWhole.take fraction).filter Char.isDigit)
    let digits := spelled 10 (chars.take whole ++ places)
    let scale := exponentValue (afterFraction.take exponent) - Int.ofNat places.length
    some ((Double.ofDecimal false digits scale).toFloat, whole + fraction + exponent)

/-- The bases that a letter after a zero announces. -/
def baseOf? (c : Char) : Option Nat :=
  match c.toLower with
  | 'b' => some 2
  | 'o' => some 8
  | 'x' => some 16
  | _ => none

/-- Tests for the digits of a base. -/
def isDigitOf (base : Nat) (c : Char) : Bool :=
  (c.isDigit || ('a' ≤ c.toLower && c.toLower ≤ 'f')) && digitValue c < base

/-- Takes a whole number off the front, with its length: in a base that its start announces, or
in base ten. A zero is followed by zeros only. -/
def integer? (chars : List Char) : Option (Nat × Nat) :=
  let announced : Option (Nat × Nat) :=
    match chars with
    | '0' :: letter :: rest =>
      match baseOf? letter with
      | none => none
      | some base =>
        let run := digitRun (isDigitOf base) rest
        if run == 0 then none else some (spelled base (rest.take run), run + 2)
    | _ => none
  match announced, chars with
  | some read, _ => some read
  | none, '0' :: rest => some (0, digitRun (· == '0') rest + 1)
  | none, _ =>
    let run := decimalRun chars
    if run == 0 then none else some (spelled 10 (chars.take run), run)

/-- Counts the characters of a quoted text at the front after its opening mark, the closing one
included. -/
def quotedRun (mark : Char) : List Char → Option Nat
  | [] => none
  | '\\' :: _ :: rest => (quotedRun mark rest).map (· + 2)
  | c :: rest => if c == mark then some 1 else (quotedRun mark rest).map (· + 1)

/-- Writes each character beyond ASCII as the escape of its number. -/
def asciiOnly (chars : List Char) : List Char :=
  chars.flatMap fun c => if c.toNat < 0x80 then [c] else escapeByNumber c

/-- The character of a one-letter escape. -/
def escaped? (c : Char) : Option Char :=
  match c with
  | '\\' => some '\\'
  | '"' => some '"'
  | '\x27' => some '\x27'
  | 'a' => some '\x07'
  | 'b' => some '\x08'
  | 'f' => some '\x0c'
  | 'n' => some '\n'
  | 'r' => some '\r'
  | 't' => some '\t'
  | 'v' => some '\x0b'
  | _ => none

/-- The number of digits that an escape by number has, by its letter. -/
def numberWidth? (c : Char) : Option Nat :=
  match c with
  | 'x' => some 2
  | 'u' => some 4
  | 'U' => some 8
  | _ => none

/-- The wording of an escape by number with too few digits. -/
def truncatedText (letter : Char) (width : Nat) : String :=
  "truncated \\" ++ String.ofList (letter :: List.replicate width 'X') ++ " escape"

/-- Replaces the escapes of a quoted text by what they stand for; a backslash before any other
character stays, and one before a line feed joins two lines. -/
def unescape (chars : List Char) : Except String (List Char) :=
  match chars with
  | [] => .ok []
  | '\\' :: c :: rest =>
    if c == '\n' then unescape rest
    else match escaped? c, numberWidth? c with
      | some plain, _ => (unescape rest).map (plain :: ·)
      | none, some width =>
        let digits := rest.take width
        if digits.length < width || !digits.all (isDigitOf 16) then
          .error (truncatedText c width)
        else if 0x10FFFF < spelled 16 digits then .error "illegal Unicode character"
        else (unescape (rest.drop width)).map (unitChar (spelled 16 digits) :: ·)
      | none, none =>
        if c == 'N' then
          .error (if rest.head? == some '\x7b' then "unknown Unicode character name"
            else "malformed \\N character escape")
        else if isDigitOf 8 c then
          let more := (rest.take 2).takeWhile (isDigitOf 8)
          (unescape (rest.drop more.length)).map (unitChar (spelled 8 (c :: more)) :: ·)
        else (unescape rest).map fun read => '\\' :: c :: read
  | c :: rest => (unescape rest).map (c :: ·)
termination_by chars.length
decreasing_by all_goals simp only [List.length_cons, List.length_drop]; omega

/-- The text that stands between two quote marks. -/
def textOf (inside : List Char) : Except Failure String :=
  match unescape (asciiOnly inside) with
  | .ok chars => .ok (String.ofList chars)
  | .error text => .error (.template .badSyntax text)

end Stencil.Template.Literal
