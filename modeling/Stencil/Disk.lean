import Stencil.Path
import Stencil.Table
import Stencil.Text.Quoted

/-! A disk: files and directories by place, and what the system answers when a path is used. -/

namespace Stencil

/-- A place on a disk: the names that lead to it, innermost first; the root has none. -/
abbrev Location := List String

/-- What stands at a place. -/
inductive Node where
  | file (content : ByteArray)
  | directory

/-- Tests whether two nodes are of one sort and hold the same bytes. -/
def Node.decideEq : (first second : Node) → Decidable (first = second)
  | .file a, .file b =>
    match ByteArray.instDecidableEq a b with
    | .isTrue same => .isTrue (by rw [same])
    | .isFalse different => .isFalse fun same => different (Node.file.inj same)
  | .directory, .directory => .isTrue rfl
  | .file _, .directory => .isFalse Node.noConfusion
  | .directory, .file _ => .isFalse Node.noConfusion

instance : DecidableEq Node := Node.decideEq

/-- Why the system refuses a path. -/
inductive Refusal where
  | notFound
  | alreadyThere
  | notDirectory
  | isDirectory
  | nameTooLong
  | nullByte
deriving DecidableEq, Repr

/-- A refusal with the text of the path it is about. -/
structure PathFault where
  refusal : Refusal
  path : String
deriving DecidableEq, Repr

/-- The wording of a refusal for a path. -/
def PathFault.message (fault : PathFault) : String :=
  let about (number : Nat) (reason : String) := s!"[Errno {number}] {reason}: {quote fault.path}"
  match fault.refusal with
  | .notFound => about 2 "No such file or directory"
  | .alreadyThere => about 17 "File exists"
  | .notDirectory => about 20 "Not a directory"
  | .isDirectory => about 21 "Is a directory"
  | .nameTooLong => about 36 "File name too long"
  | .nullByte => "embedded null byte"

/-- Tests whether a table of nodes has a directory at a place; the root always is one. -/
def directoryIn (nodes : Table Location Node) : Location → Bool
  | [] => true
  | place => nodes.find? place == some .directory

/-- Tests for the texts that can name a node: components other than two dots. -/
def isNodeName (name : String) : Bool := isComponent name && name != ".."

/-- A disk: nodes by place, each of them inside a directory and under a name of its own. -/
structure Disk where
  nodes : Table Location Node
  closed : ∀ name place, nodes.contains (name :: place) = true →
    directoryIn nodes place = true ∧ isNodeName name = true

namespace Disk

/-- The disk that has only its root. -/
def blank : Disk :=
  ⟨.empty, by
    -- No place has a node.
    intro name place member
    simp [Table.contains, Table.find?, Table.empty, findEntry] at member⟩

/-- The node at a place. -/
def node? (disk : Disk) (place : Location) : Option Node := disk.nodes.find? place

/-- Tests whether a place is a directory. -/
def isDirectoryAt (disk : Disk) (place : Location) : Bool := directoryIn disk.nodes place

/-- The content of a file at a place. -/
def fileAt? (disk : Disk) (place : Location) : Option ByteArray :=
  match disk.node? place with
  | some (.file content) => some content
  | _ => none

/-- A node put where no directory stood leaves all directories in place. -/
theorem directoryIn_put {nodes : Table Location Node} {place other : Location} {node : Node}
    (fresh : nodes.find? place ≠ some .directory) (held : directoryIn nodes other = true) :
    directoryIn (nodes.put place node) other = true := by
  -- The place put is none of the directories that were there.
  cases other with
  | nil => rfl
  | cons name rest =>
    simp only [directoryIn, beq_iff_eq] at held ⊢
    rw [Table.find?_put]
    split
    · rename_i same
      exact absurd (same ▸ held) fresh
    · exact held

/-- A node put into a directory, where no directory stood, keeps every node inside one. -/
theorem closed_put (disk : Disk) {name : String} {place : Location} {node : Node}
    (inside : disk.isDirectoryAt place = true ∧ isNodeName name = true)
    (fresh : disk.node? (name :: place) ≠ some .directory) (other : String) (outer : Location)
    (member : (disk.nodes.put (name :: place) node).contains (other :: outer) = true) :
    directoryIn (disk.nodes.put (name :: place) node) outer = true ∧ isNodeName other = true := by
  -- The node itself lies in its directory, and all others lie where they lay before.
  by_cases same : other :: outer = name :: place
  · cases same
    exact ⟨directoryIn_put fresh inside.1, inside.2⟩
  · have before := disk.closed other outer
      (by simpa [Table.contains, Table.find?_put, same] using member)
    exact ⟨directoryIn_put fresh before.1, before.2⟩

/-- Writes a file into a directory, unless a directory has its name. -/
def putFile (disk : Disk) (name : String) (place : Location) (content : ByteArray) : Disk :=
  if fits : (disk.isDirectoryAt place = true ∧ isNodeName name = true) ∧
      disk.node? (name :: place) ≠ some .directory then
    ⟨disk.nodes.put (name :: place) (.file content), disk.closed_put fits.1 fits.2⟩
  else disk

/-- Adds an empty directory inside a directory, unless its name is taken. -/
def addDirectory (disk : Disk) (name : String) (place : Location) : Disk :=
  if fits : (disk.isDirectoryAt place = true ∧ isNodeName name = true) ∧
      disk.node? (name :: place) = none then
    ⟨disk.nodes.put (name :: place) .directory,
      disk.closed_put fits.1 (by rw [fits.2]; simp)⟩
  else disk

/-- Removes a place with all that lies below it. -/
def remove (disk : Disk) (place : Location) : Disk :=
  ⟨disk.nodes.filterKeys fun other => !place.isSuffixOf other, by
    -- What stays does not lie below the place, so neither does the directory around it.
    intro name outer member
    simp only [Table.contains, Table.find?_filterKeys] at member
    split at member
    · rename_i kept
      obtain ⟨held, named⟩ := disk.closed name outer member
      refine ⟨?_, named⟩
      cases outer with
      | nil => rfl
      | cons last rest =>
        simp only [directoryIn, beq_iff_eq] at held ⊢
        rw [Table.find?_filterKeys, if_pos]
        · exact held
        · simp only [Bool.not_eq_true', ← Bool.not_eq_true, List.isSuffixOf_iff_suffix] at kept ⊢
          exact fun below => kept (below.trans (List.suffix_cons name (last :: rest)))
    · simp at member⟩

/-- Appends to a file at a place. -/
def appendAt (disk : Disk) (place : Location) (more : ByteArray) : Disk :=
  match place, disk.fileAt? place with
  | name :: outer, some content => disk.putFile name outer (content ++ more)
  | _, _ => disk

/-- The place of the working directory, two directories below the root's own. -/
def home : Location := ["work", "inner", "outer"]

/-- The disk whose working directory and its parents are empty but for one another. -/
def fresh : Disk :=
  ((blank.addDirectory "outer" []).addDirectory "inner" ["outer"]).addDirectory "work"
    ["inner", "outer"]

/-- The place where a path starts. -/
def startOf (path : Path) : Location :=
  match path.anchor with
  | .relative => home
  | _ => []

/-- The number of bytes that a name may have. -/
def maxNameBytes : Nat := 255

/-- The number of bytes that the text of a path may have. -/
def maxPathBytes : Nat := 4095

/-- Follows names from a place: each step starts in a directory and ends at a node. -/
def walk (disk : Disk) (place : Location) : List String → Except Refusal Location
  | [] => .ok place
  | name :: rest =>
    if !disk.isDirectoryAt place then .error .notDirectory
    else if name == ".." then disk.walk place.tail rest
    else if maxNameBytes < name.utf8ByteSize then .error .nameTooLong
    else if disk.nodes.contains (name :: place) then disk.walk (name :: place) rest
    else .error .notFound

/-- Refuses the texts that the system takes for no path. -/
def accept (path : Path) : Except Refusal Unit :=
  if path.toText.toList.contains '\x00' then .error .nullByte
  else if maxPathBytes < path.toText.utf8ByteSize then .error .nameTooLong
  else .ok ()

/-- The place of an existing node. -/
def find (disk : Disk) (path : Path) : Except Refusal Location := do
  accept path
  disk.walk (startOf path) path.parts

/-- Where a path would put a node: a name in a directory, or nowhere if it names a directory by
its form. -/
def slot (disk : Disk) (path : Path) : Except Refusal (Option (String × Location)) := do
  accept path
  let place ← disk.walk (startOf path) path.parts.dropLast
  if !disk.isDirectoryAt place then .error .notDirectory
  match path.parts.getLast? with
  | none => .ok none
  | some name =>
    if name == ".." then .ok none
    else if maxNameBytes < name.utf8ByteSize then .error .nameTooLong
    else .ok (some (name, place))

/-- Names the path in a refusal. -/
def about {α : Type} (path : Path) (result : Except Refusal α) : Except PathFault α :=
  result.mapError fun refusal => ⟨refusal, path.toText⟩

/-- Tests whether a path exists; only a name that is too long is refused. -/
def pathExists (disk : Disk) (path : Path) : Except PathFault Bool :=
  match disk.find path with
  | .ok _ => .ok true
  | .error .nameTooLong => .error ⟨.nameTooLong, path.toText⟩
  | .error _ => .ok false

/-- Tests whether a path is a directory; only a name that is too long is refused. -/
def pathIsDirectory (disk : Disk) (path : Path) : Except PathFault Bool :=
  match disk.find path with
  | .ok place => .ok (disk.isDirectoryAt place)
  | .error .nameTooLong => .error ⟨.nameTooLong, path.toText⟩
  | .error _ => .ok false

/-- The content of a file. -/
def readFile (disk : Disk) (path : Path) : Except PathFault ByteArray :=
  match disk.find path with
  | .error refusal => .error ⟨refusal, path.toText⟩
  | .ok place =>
    match disk.fileAt? place with
    | some content => .ok content
    | none => .error ⟨.isDirectory, path.toText⟩

/-- Opens a file for writing: it is created, or loses its content. -/
def create (disk : Disk) (path : Path) : Except PathFault (Location × Disk) :=
  match disk.slot path with
  | .error refusal => .error ⟨refusal, path.toText⟩
  | .ok none => .error ⟨.isDirectory, path.toText⟩
  | .ok (some (name, place)) =>
    if disk.isDirectoryAt (name :: place) then .error ⟨.isDirectory, path.toText⟩
    else .ok (name :: place, disk.putFile name place .empty)

/-- Makes one directory. -/
def makeDirectory (disk : Disk) (path : Path) : Except PathFault Disk :=
  match disk.slot path with
  | .error refusal => .error ⟨refusal, path.toText⟩
  | .ok none => .error ⟨.alreadyThere, path.toText⟩
  | .ok (some (name, place)) =>
    if disk.nodes.contains (name :: place) then .error ⟨.alreadyThere, path.toText⟩
    else .ok (disk.addDirectory name place)

/-- Accepts a fault of making a directory if the directory is there. -/
def settle (disk : Disk) (path : Path) (fault : PathFault) : Except PathFault Unit :=
  match disk.pathIsDirectory path with
  | .ok true => .ok ()
  | .ok false => .error fault
  | .error other => .error other

/-- Makes a directory with the missing ones above it; those made stay after a fault. -/
def makeDirectories (disk : Disk) (path : Path) : Except PathFault Unit × Disk :=
  match disk.makeDirectory path with
  | .ok made => (.ok (), made)
  | .error ⟨.notFound, text⟩ =>
    if path.parts = [] then (.error ⟨.notFound, text⟩, disk)
    else match disk.makeDirectories path.parent with
      | (.error fault, made) => (.error fault, made)
      | (.ok (), made) =>
        match made.makeDirectory path with
        | .ok last => (.ok (), last)
        | .error ⟨.notFound, text⟩ => (.error ⟨.notFound, text⟩, made)
        | .error fault => (made.settle path fault, made)
  | .error ⟨.nullByte, text⟩ => (.error ⟨.nullByte, text⟩, disk)
  | .error fault => (disk.settle path fault, disk)
termination_by path.parts.length
decreasing_by
  -- The parent has one component less.
  rename_i some
  have : path.parts.length ≠ 0 := fun none => some (List.eq_nil_of_length_eq_zero none)
  simp only [Path.parent, List.length_dropLast]
  omega

/-- Writes a whole file, with the directories above it. -/
def writeFile (disk : Disk) (path : Path) (content : ByteArray) : Except PathFault Unit × Disk :=
  match disk.makeDirectories path.parent with
  | (.error fault, made) => (.error fault, made)
  | (.ok (), made) =>
    match made.create path with
    | .error fault => (.error fault, made)
    | .ok (place, opened) => (.ok (), opened.appendAt place content)

/-- Removes what a path names; a path that names nothing is no fault. -/
def removePath (disk : Disk) (path : Path) : Disk :=
  match disk.find path with
  | .ok place => disk.remove place
  | .error _ => disk

/-- The names that lead from an outer place to one below it, outermost first. -/
def below? (outer place : Location) : Option (List String) :=
  if outer.isSuffixOf place && outer.length < place.length then
    some (place.take (place.length - outer.length)).reverse
  else none

/-- The nodes below a place, by the names that lead to them. -/
def nodesBelow (disk : Disk) (outer : Location) : List (List String × Node) :=
  disk.nodes.entries.filterMap fun entry => (below? outer entry.1).map fun names => (names, entry.2)

/-- All that lies below the working directory, sorted by path; a directory's path ends in a
slash. -/
def listing (disk : Disk) : List (String × Option ByteArray) :=
  let shown := (disk.nodesBelow home).map fun entry =>
    match entry.2 with
    | .file content => ("/".intercalate entry.1, some content)
    | .directory => ("/".intercalate entry.1 ++ "/", none)
  shown.mergeSort fun a b => decide (a.1 ≤ b.1)

end Disk

end Stencil
