import Stencil.CommandLine.Run

/-! The program on the files of the machine: they are loaded into a disk, and changes are stored. -/

namespace Stencil.CommandLine

/-- How deep directories are followed. -/
def folderLimit : Nat := 64

/-- The paths that lead to a path, from the outside in, and the path itself. -/
def pathsTo (path : Path) : List Path :=
  (List.range (path.parts.length + 1)).map fun n =>
    (Path.start path.anchor).joinAll (path.parts.take n)

/-- Loads what stands at a path, without what lies below it. -/
def loadNode (disk : Disk) (path : Path) : IO Disk := do
  if ← (System.mkFilePath [path.toText]).isDir then return (disk.makeDirectories path).2
  match ← (IO.FS.readBinFile path.toText).toBaseIO with
  | .ok content => return (disk.writeFile path content).2
  | .error _ => return disk

/-- Loads what stands at a path and all that lies below it, down to a depth. -/
def loadTree : Nat → Path → Disk → IO Disk
  | 0, _, disk => return disk
  | depth + 1, path, disk => do
    let found ← loadNode disk path
    let folder := System.mkFilePath [path.toText]
    if ← folder.isDir then
      (← folder.readDir).toList.foldlM (fun loaded entry =>
        loadTree depth (path.join entry.fileName) loaded) found
    else return found

/-- Loads all that the program may look at: the trees of three directories, the nodes that lead to
them, and two files. -/
def loadFor (arguments : Arguments) : IO Disk := do
  let out := Path.ofString (arguments.out.getD "")
  let trees := [Path.ofString arguments.templates] ++
    ([arguments.out, arguments.resourcesOut].filterMap id).map Path.ofString
  let files := arguments.config.toList.map Path.ofString ++
    arguments.report.toList.map out.join
  let along ← ((trees ++ files).flatMap pathsTo).foldlM loadNode .fresh
  trees.foldlM (fun disk path => loadTree folderLimit path disk) along

/-- The path of a place that the program sees: relative to the working directory where one of the
directories around that directory holds it. -/
def pathOf (place : Location) : Path :=
  let seen := (List.range Disk.home.length).findSome? fun up =>
    (Disk.below? (Disk.home.drop up) place).map fun names => List.replicate up ".." ++ names
  match seen with
  | some names => (Path.start .relative).joinAll names
  | none => (Path.start .root).joinAll place.reverse

/-- Stores a node on the machine. -/
def storeNode (place : Location) : Node → IO Unit
  | .directory => IO.FS.createDirAll (pathOf place).toText
  | .file content => IO.FS.writeBinFile (pathOf place).toText content

/-- Stores the nodes of a disk that are new or changed. -/
def storeChanges (before after : Disk) : IO Unit :=
  after.nodes.entries.forM fun entry => do
    if before.node? entry.1 ≠ some entry.2 then storeNode entry.1 entry.2

/-- The disk that the program starts with. -/
def diskFor (words : List String) : IO Disk :=
  match requestOf words with
  | .ok (.run arguments) => loadFor arguments
  | _ => return .fresh

end Stencil.CommandLine

/-- Runs the program; it asks no commands for the version. -/
def main (words : List String) : IO UInt32 := do
  let disk ← Stencil.CommandLine.diskFor words
  let (result, after) := (Stencil.CommandLine.run (fun _ => .missing) words).run (.start disk)
  Stencil.CommandLine.storeChanges disk after.disk
  IO.print after.output
  IO.eprint after.errors
  match result with
  | .ok (.code value) => return value.toUInt32
  | .ok (.reason text) =>
    IO.eprintln text
    return 1
  | .error failure =>
    IO.eprintln failure.message
    return 1
