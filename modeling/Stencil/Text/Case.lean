import Stencil.Text.CaseTable
import Stencil.Text.Printable

/-! Upper and lower case of texts by the full Unicode mappings, with the final form of sigma. -/

namespace Stencil

/-- Applies the first run of a mapping that covers a code point. -/
def mapByRuns (runs : List CaseRun) (n : Nat) : Nat :=
  match runs.find? fun run => run.first ≤ n && n ≤ run.last && (n - run.first) % run.step == 0 with
  | some run => (Int.ofNat n + run.shift).toNat
  | none => n

/-- Maps one character by its special mapping if it has one, else by the runs. -/
def mapCase (specials : List (Nat × List Nat)) (runs : List CaseRun) (c : Char) : List Char :=
  match specials.find? fun special => special.1 == c.toNat with
  | some special => special.2.map Char.ofNat
  | none => [Char.ofNat (mapByRuns runs c.toNat)]

/-- Tests whether the first character that is not looked through has a case. -/
def meetsCased (chars : List Char) : Bool :=
  match chars.dropWhile fun c => inRanges caseIgnorableRanges c.toNat with
  | [] => false
  | c :: _ => inRanges casedRanges c.toNat

/-- Lowers characters, given the ones already passed in reverse order. -/
def lowerFrom (passed : List Char) : List Char → List Char
  | [] => []
  | c :: rest =>
    let lowered :=
      if c.toNat == 0x3A3 then
        [Char.ofNat (if meetsCased passed && !meetsCased rest then 0x3C2 else 0x3C3)]
      else mapCase lowerSpecials lowerRuns c
    lowered ++ lowerFrom (c :: passed) rest

/-- A text in lower case. -/
def lowerCase (text : String) : String := String.ofList (lowerFrom [] text.toList)

/-- A text in upper case. -/
def upperCase (text : String) : String :=
  String.ofList (text.toList.flatMap (mapCase upperSpecials upperRuns))

end Stencil
