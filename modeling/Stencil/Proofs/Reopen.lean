import Stencil.Proofs.Disk

/-! A file that is there can be opened again: the directories above it need not be made, and the
system refuses neither it nor them. -/

namespace Stencil

namespace Path

/-- The components of a path that has some are those of its parent, and a last one. -/
theorem parts_eq_parent_append {path : Path} (below : path.parts ≠ []) :
    ∃ name, path.parts = path.parent.parts ++ [name] :=
  ⟨path.parts.getLast below, (List.dropLast_concat_getLast below).symm⟩

/-- The parent of a plain path is plain. -/
theorem Plain.parent {path : Path} (plain : path.Plain) : path.parent.Plain :=
  ⟨plain.relative, fun inside => plain.down ((List.dropLast_sublist path.parts).subset inside)⟩

/-- The text of a relative path goes on from that of its parent, which is a dot if it is empty. -/
theorem toText_parent {path : Path} (relative : path.anchor = .relative) (below : path.parts ≠ []) :
    path.parent.toText = "." ∨ ∃ more, path.toText = path.parent.toText ++ more := by
  -- A path that has only one component has a parent with none.
  obtain ⟨name, parts⟩ := parts_eq_parent_append below
  have anchor : path.parent.anchor = .relative := relative
  by_cases top : path.parent.parts = []
  · exact Or.inl (by simp [toText, anchorText, anchor, top])
  -- Below the top, the last component and a slash follow the text of the parent.
  by_cases empty : "/".intercalate path.parent.parts = ""
  · exact Or.inl (by simp [toText, anchorText, anchor, empty])
  · have split := String.intercalate_append_of_ne_nil (s := "/") top (List.cons_ne_nil name [])
    rw [← parts, String.intercalate_singleton, String.append_assoc] at split
    have filled : "/".intercalate path.parent.parts ++ ("/" ++ name) ≠ "" := by
      simp [String.append_eq_empty_iff]
    refine Or.inr ⟨"/" ++ name, ?_⟩
    simp only [toText, anchorText, anchor, relative, String.empty_append, split, beq_iff_eq,
      empty, filled, if_false]

end Path

namespace Disk

/-- The system takes the parent of a path that it takes. -/
theorem accept_parent {path : Path} (relative : path.anchor = .relative) (below : path.parts ≠ [])
    (accepted : accept path = .ok ()) : accept path.parent = .ok () := by
  rcases Path.toText_parent relative below with top | ⟨more, longer⟩
  · rw [accept, top]
    rfl
  -- A part of the text holds no more bytes, and no null byte of its own.
  · obtain ⟨clean, short⟩ := accept_eq_ok.1 accepted
    rw [longer, String.toList_append, List.mem_append, not_or] at clean
    rw [longer, String.utf8ByteSize_append] at short
    exact accept_eq_ok.2 ⟨clean.1, by omega⟩

/-- A plain path that leads to a node has room for it, in the directory to which its parent
leads. -/
theorem Room.of_find {disk : Disk} {path : Path} {place : Location} (plain : path.Plain)
    (below : path.parts ≠ []) (found : disk.find path = .ok place) :
    ∃ name outer, place = name :: outer ∧ Room disk path name outer ∧
      disk.find path.parent = .ok outer ∧ disk.nodes.contains place = true := by
  obtain ⟨accepted, reached⟩ := find_eq_ok.1 found
  obtain ⟨name, parts⟩ := Path.parts_eq_parent_append below
  -- A plain path has no name that leads up.
  have down : name ≠ ".." := fun up => plain.down (by simp [parts, up])
  -- The last step of the walk starts in the directory.
  rw [parts, walk_append] at reached
  cases above : disk.walk (startOf path) path.parent.parts with
  | error refusal => simp [above, Except.bind] at reached
  | ok outer =>
    rw [above] at reached
    obtain ⟨inside, ⟨up, _⟩ | ⟨_, short, there, last⟩⟩ := walk_cons_eq_ok.1 reached
    · exact absurd up down
    · cases last
      exact ⟨name, outer, rfl, ⟨accepted, parts, above, inside, down, short⟩,
        find_eq_ok.2 ⟨accept_parent plain.relative below accepted, above⟩, there⟩

/-- A directory that is there need not be made. -/
theorem makeDirectories_present {disk : Disk} {path : Path} {place : Location}
    (plain : path.Plain) (found : disk.find path = .ok place)
    (directory : disk.isDirectoryAt place = true) :
    disk.makeDirectories path = (.ok (), disk) := by
  -- Making it fails as it is there already, which is no fault.
  have taken : disk.makeDirectory path = .error ⟨.alreadyThere, path.toText⟩ := by
    by_cases top : path.parts = []
    · obtain ⟨accepted, reached⟩ := find_eq_ok.1 found
      rw [top] at reached
      simp [makeDirectory, slot, accepted, top, reached, directory, Bind.bind, Except.bind]
    · obtain ⟨name, outer, rfl, room, _, there⟩ := Room.of_find plain top found
      simp [makeDirectory, slot_eq_some_iff.2 room, there]
  have settled : disk.settle path ⟨.alreadyThere, path.toText⟩ = .ok () := by
    simp [settle, pathIsDirectory, found, directory]
  rw [makeDirectories, taken]
  simp [settled]

/-- A file that is there can be opened for writing once more. -/
theorem reopen {disk : Disk} {path : Path} {content : ByteArray} (plain : path.Plain)
    (below : path.parts ≠ []) (held : disk.readFile path = .ok content) :
    disk.makeDirectories path.parent = (.ok (), disk) ∧
      ∃ place later, disk.create path = .ok (place, later) := by
  -- Its directory is there, and so is its place in it.
  obtain ⟨place, found, bytes⟩ := readFile_eq_ok.1 held
  obtain ⟨name, outer, rfl, room, above, _⟩ := Room.of_find plain below found
  refine ⟨makeDirectories_present plain.parent above room.inside,
    name :: outer, disk.putFile name outer .empty, ?_⟩
  -- What is a file is no directory.
  have file : disk.isDirectoryAt (name :: outer) = false := by
    have node := fileAt?_eq_some.1 bytes
    rw [node?] at node
    simp [isDirectoryAt, directoryIn, node]
  simp [create, slot_eq_some_iff.2 room, file]

end Disk

end Stencil
