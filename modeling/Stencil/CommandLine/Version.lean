import Stencil.Disk

/-! The version given to templates: a tag at the current commit, else the commit's short name. -/

namespace Stencil

namespace Version

/-- What came of a command: it ended with a code and an output, or it did not end by itself. -/
inductive CommandResult where
  | ended (code : Int) (output : String)
  | missing
  | timedOut
deriving DecidableEq, Repr

/-- The commands that may tell a version, in the order in which they are asked. -/
inductive Query where
  | tag
  | commit
deriving DecidableEq, Repr

/-- The words of a command. -/
def Query.words : Query → List String
  | tag => ["git", "describe", "--tags", "--exact-match"]
  | commit => ["git", "rev-parse", "--short", "HEAD"]

/-- The version where no command tells one. -/
def unknown : String := "undefined"

/-- Asks commands in order for the first version; a command that does not end stops the search.
The answer lists the commands that were asked. -/
def search (ask : Query → CommandResult) : List Query → String × List Query
  | [] => (unknown, [])
  | query :: rest =>
    match ask query with
    | .ended code output =>
      if code == 0 && !isBlankText output then (strip output, [query])
      else
        let (version, asked) := search ask rest
        (version, query :: asked)
    | _ => (unknown, [query])

/-- A command as it was run: its words, then the directory. -/
def commandLine (directory : String) (query : Query) : List String := query.words ++ [directory]

/-- The directory in which commands run: that of the templates if it is one. -/
def directoryOf (disk : Disk) (templates : Path) : Except PathFault Path := do
  return if ← disk.pathIsDirectory templates then templates else .ofString "."

/-- Resolves the version for a template directory, with the commands that were run. -/
def resolve (disk : Disk) (templates : Path) (ask : Query → CommandResult) :
    Except PathFault (String × List (List String)) := do
  let directory ← directoryOf disk templates
  let (version, asked) := search ask [.tag, .commit]
  return (version, asked.map (commandLine directory.toText))

end Version

end Stencil
