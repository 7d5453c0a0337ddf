import Stencil.Sink

/-! The sink of files: two output directories in which a destination is created once per pass. -/

namespace Stencil

/-- Where files go and how: the two roots, whether files of earlier builds count as created, and
the encoding of all texts. -/
structure FileSettings where
  sourceRoot : Path
  classRoot : Path
  incremental : Bool
  encoding : Encoding
deriving Repr

/-- The state of the sink of files: the disk, the paths that count as created, and the paths
opened for writing in order. -/
structure FileState where
  disk : Disk
  created : List Path
  written : List Path

/-- The state at the start of a pass over a disk. -/
def FileState.start (disk : Disk) : FileState := ⟨disk, [], []⟩

/-- An open file: its path, and its place on the disk. -/
structure OpenFile where
  path : Path
  location : Location

namespace FileSettings

/-- The root of a location. -/
def root (settings : FileSettings) : Place → Path
  | .sources => settings.sourceRoot
  | .classes => settings.classRoot

/-- The path of a destination: the root, one directory for each segment of the package, and the
name. -/
def resolve (settings : FileSettings) (place : Place) (package name : String) : Path :=
  let segments := if package == "" then [] else splitAt '.' package
  ((settings.root place).joinAll segments).join name

/-- Takes over the answer of the disk. -/
def onDisk {α : Type} (result : Except PathFault α) : Attempt FileState α :=
  .ofExcept (result.mapError Failure.path)

/-- Remembers a path as created. -/
def remember (path : Path) : Attempt FileState Unit :=
  .change fun state => { state with created := state.created ++ [path] }

/-- Makes the directories above a path. -/
def makeParents (path : Path) : Attempt FileState Unit := fun state =>
  match state.disk.makeDirectories path.parent with
  | (result, disk) => (result.mapError Failure.path, { state with disk })

/-- Creates or empties the file of a path and lists it as written. -/
def openFile (path : Path) : Attempt FileState OpenFile := do
  let (location, disk) ← onDisk ((← Attempt.state).disk.create path)
  Attempt.change fun state => { state with disk, written := state.written ++ [path] }
  return ⟨path, location⟩

/-- Opens a destination that was not created in this pass and, for the sources of an incremental
pass, does not exist yet. -/
def openOnce (settings : FileSettings) (place : Place) (package name : String) :
    Attempt FileState OpenFile := do
  let path := settings.resolve place package name
  let state ← Attempt.state
  if path ∈ state.created then
    Attempt.stop (.occupied (.thisPass path))
  else if settings.incremental && place == .sources then
    if ← onDisk (state.disk.pathExists path) then
      remember path
      Attempt.stop (.occupied (.earlierBuild path))
  remember path
  makeParents path
  openFile path

/-- Appends the bytes of a text to an open file. -/
def writeText (settings : FileSettings) (file : OpenFile) (text : String) :
    Attempt FileState Unit := do
  let bytes ← .ofExcept ((settings.encoding.encode text).mapError Failure.encode)
  Attempt.change fun state => { state with disk := state.disk.appendAt file.location bytes }

/-- Opens an existing file for reading. -/
def openExisting (settings : FileSettings) (place : Place) (package name : String) :
    Attempt FileState OpenFile := do
  let path := settings.resolve place package name
  let disk := (← Attempt.state).disk
  let _ ← onDisk (disk.readFile path)
  return ⟨path, (disk.find path).toOption.getD []⟩

/-- Reads the text of an open file. -/
def readText (settings : FileSettings) (file : OpenFile) : Attempt FileState String := do
  let content := ((← Attempt.state).disk.fileAt? file.location).getD .empty
  .ofExcept ((settings.encoding.decode content).mapError Failure.decode)

/-- The sink of files with these settings. -/
def sink (settings : FileSettings) : Sink FileState where
  Stream := OpenFile
  openWrite := settings.openOnce
  write := settings.writeText
  close _ := pure ()
  openRead := settings.openExisting
  read := settings.readText
  opened file := some (.debug "codegen.sink" s!"Opened {file.path.toText} for writing")

end FileSettings

end Stencil
