import Stencil.Failure

/-! The catalog of a template directory: which files below it are templates, in order. -/

namespace Stencil

namespace Catalog

/-- The suffixes of templates. -/
def templateSuffixes : List String := [".jinja", ".j2"]

/-- Tests for the names of partial templates and of directories that hold them. -/
def isPartialName (name : String) : Bool := startsWith name "_"

/-- Tests whether a file, by the names that lead to it, is a template. -/
def isTemplate (suffixes names : List String) : Bool :=
  match names.getLast? with
  | none => false
  | some last => suffixes.contains (Path.suffixOf last) && !names.any isPartialName

/-- The path of a template inside its directory. -/
def nameOf (names : List String) : String := "/".intercalate names

/-- The templates below a place, sorted by path. -/
def namesBelow (disk : Disk) (place : Location) (suffixes : List String) : List String :=
  let found := (disk.nodesBelow place).filterMap fun entry =>
    match entry.2 with
    | .file _ => if isTemplate suffixes entry.1 then some (nameOf entry.1) else none
    | .directory => none
  found.mergeSort fun a b => decide (a ≤ b)

/-- The templates of a directory, sorted by path. -/
def templates (disk : Disk) (directory : Path) (suffixes : List String) :
    Except Failure (List String) :=
  match disk.pathIsDirectory directory with
  | .error fault => .error (.path fault)
  | .ok false => .error (.directoryMissing directory)
  | .ok true =>
    match disk.find directory with
    | .error _ => .error (.directoryMissing directory)
    | .ok place => .ok (namesBelow disk place suffixes)

end Catalog

end Stencil
