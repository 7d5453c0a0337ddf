import Stencil.Proofs.Disk

/-! Where a path leads once all directories on its way are there, and when it has led there before:
without parents among its components always, with them only if none of these directories was
missing. -/

namespace Stencil

namespace Disk

/-- One name of a path: up for two dots, and otherwise down. -/
def turn (place : Location) (name : String) : Location :=
  if name = ".." then place.tail else name :: place

/-- A walk that ends well ends at the place that its names spell, whatever the disk is. -/
theorem walk_spelled {disk : Disk} {place found : Location} {names : List String}
    (reached : disk.walk place names = .ok found) : found = names.foldl turn place := by
  -- Each step of the walk is one turn.
  induction names generalizing place with
  | nil => simpa [walk] using reached.symm
  | cons name rest ih =>
    obtain ⟨_, ⟨up, later⟩ | ⟨down, _, _, later⟩⟩ := walk_cons_eq_ok.1 reached
    · simpa [turn, up] using ih later
    · simpa [turn, down] using ih later

/-- Around a place with a node, every place but the root has one. -/
theorem contains_above {disk : Disk} {front place : Location} (below : place ≠ [])
    (held : disk.nodes.contains (front ++ place) = true) : disk.nodes.contains place = true := by
  -- The disk carries the proof that the place around a node is a directory.
  induction front with
  | nil => exact held
  | cons name rest ih =>
    have directory := (disk.closed name (rest ++ place) held).1
    refine ih ?_
    cases outer : rest ++ place with
    | nil => exact absurd (List.append_eq_nil_iff.1 outer).2 below
    | cons first others =>
      rw [outer] at directory
      simp only [directoryIn, beq_iff_eq] at directory
      simp [Table.contains, directory]

/-- Without parents among its names, a walk to a node that was there before would have found it
before. -/
theorem walk_back {disk later : Disk} {place found : Location} {names : List String}
    (plain : ".." ∉ names) (reached : later.walk place names = .ok found)
    (held : disk.nodes.contains found = true) : disk.walk place names = .ok found := by
  -- All steps lead down, so every place on the way lies around the node.
  induction names generalizing place with
  | nil => simpa [walk] using reached
  | cons name rest ih =>
    have deeper : ".." ∉ rest := fun inside => plain (List.mem_cons_of_mem _ inside)
    obtain ⟨_, ⟨up, _⟩ | ⟨down, short, _, further⟩⟩ := walk_cons_eq_ok.1 reached
    · exact absurd (by simp [up]) plain
    · have around : disk.nodes.contains (rest.reverse ++ name :: place) = true := by
        rw [← walk_plain deeper further]
        exact held
      -- Each place around a node has a node of its own.
      have there := contains_above (List.cons_ne_nil name place) around
      exact walk_cons_eq_ok.2 ⟨(disk.closed name place there).1,
        Or.inr ⟨down, short, there, ih deeper further⟩⟩

/-- A path without parents that leads to a node that was there before has led to it before. -/
theorem find_back {disk later : Disk} {path : Path} {place : Location} (plain : ".." ∉ path.parts)
    (found : later.find path = .ok place) (held : disk.nodes.contains place = true) :
    disk.find path = .ok place := by
  -- Whether the system takes a path does not depend on the disk.
  obtain ⟨accepted, reached⟩ := find_eq_ok.1 found
  exact find_eq_ok.2 ⟨accepted, walk_back plain reached held⟩

end Disk

/-- The place that a path spells: where it leads once all directories on its way are there. -/
def Path.spelled (path : Path) : Location := path.parts.foldl Disk.turn (Disk.startOf path)

namespace Disk

/-- A path that leads to a node leads to the place that it spells. -/
theorem find_spelled {disk : Disk} {path : Path} {place : Location}
    (found : disk.find path = .ok place) : place = path.spelled :=
  walk_spelled (find_eq_ok.1 found).2

/-- A path strays to a file: nothing is found at it, as a directory before one of its parents is
missing, but it spells the place of a file. -/
structure Strays (disk : Disk) (path : Path) : Prop where
  up : ".." ∈ path.parts
  hidden : disk.pathExists path ≠ .ok true
  file : (disk.fileAt? path.spelled).isSome = true

/-- A path at which nothing was found, but which has come to lead to the place of a file, strayed to
it. -/
theorem strays_of_find {disk later : Disk} {path : Path} {place : Location} {content : ByteArray}
    (hidden : disk.pathExists path ≠ .ok true) (found : later.find path = .ok place)
    (held : disk.fileAt? place = some content) : disk.Strays path := by
  -- Had it no parents, the file would have been found at it.
  refine ⟨?_, hidden, by rw [← find_spelled found, held]; rfl⟩
  by_cases up : ".." ∈ path.parts
  · exact up
  · refine absurd ?_ hidden
    rw [pathExists, find_back up found (contains_of_fileAt? held)]

/-- A path without parents reads as before if its place is not touched. -/
theorem Keeps.readFile_back {touched : Location → Prop} {before after : Disk} {path : Path}
    {content : ByteArray} (kept : Keeps touched before after) (plain : ".." ∉ path.parts)
    (held : after.readFile path = .ok content)
    (spared : ∀ place, after.find path = .ok place → ¬touched place) :
    before.readFile path = .ok content := by
  -- Its file is not new, so the path has led to it before.
  obtain ⟨place, found, bytes⟩ := readFile_eq_ok.1 held
  have earlier := kept.earlier bytes (spared place found)
  exact readFile_eq_ok.2 ⟨place, find_back plain found (contains_of_fileAt? earlier), earlier⟩

end Disk

end Stencil
