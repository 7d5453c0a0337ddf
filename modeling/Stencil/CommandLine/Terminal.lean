import Stencil.Attempt

/-! The surroundings of the program: the disk, what it prints, and the commands that it runs. -/

namespace Stencil.CommandLine

/-- The state around the program: the disk, its output, its error output, and the commands that it
ran. -/
structure Terminal where
  disk : Disk
  output : String
  errors : String
  asked : List (List String)

/-- How the program ends by itself: with a code, or with a reason, which counts as code one. -/
inductive Ending where
  | code (value : Nat)
  | reason (text : String)
deriving DecidableEq, Repr

namespace Terminal

/-- The surroundings of a program that starts on a disk. -/
def start (disk : Disk) : Terminal := ⟨disk, "", "", []⟩

/-- Prints a text. -/
def print (text : String) : Attempt Terminal Unit :=
  .change fun terminal => { terminal with output := terminal.output ++ text }

/-- Prints lines. -/
def printLines (lines : List String) : Attempt Terminal Unit :=
  print (String.join (lines.map (· ++ "\n")))

/-- Prints a text to the error output. -/
def complain (text : String) : Attempt Terminal Unit :=
  .change fun terminal => { terminal with errors := terminal.errors ++ text }

end Terminal

end Stencil.CommandLine
