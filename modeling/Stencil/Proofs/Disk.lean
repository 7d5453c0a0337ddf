import Stencil.Disk

/-! Laws of disks: what following a path finds, and what each operation keeps. -/

namespace Stencil

namespace Disk

/-- One step of a walk starts in a directory; it goes up, or down to a node that is there. -/
theorem walk_cons_eq_ok {disk : Disk} {place found : Location} {name : String}
    {rest : List String} :
    disk.walk place (name :: rest) = .ok found ↔ disk.isDirectoryAt place = true ∧
      (name = ".." ∧ disk.walk place.tail rest = .ok found ∨
        name ≠ ".." ∧ name.utf8ByteSize ≤ maxNameBytes ∧
          disk.nodes.contains (name :: place) = true ∧
          disk.walk (name :: place) rest = .ok found) := by
  -- The tests of a step are made one after the other, and each of them can refuse it.
  rw [walk]
  by_cases inside : disk.isDirectoryAt place = true
  · by_cases up : name = ".."
    · simp [inside, up]
    · by_cases short : name.utf8ByteSize ≤ maxNameBytes
      · by_cases there : disk.nodes.contains (name :: place) = true
        · simp [inside, up, short, Nat.not_lt.2 short, there]
        · simp [inside, up, Nat.not_lt.2 short, there]
      · simp [inside, up, short, Nat.not_le.1 short]
  · simp [inside]

/-- The system takes the texts of bounded length that hold no null byte. -/
theorem accept_eq_ok {path : Path} :
    accept path = .ok () ↔
      '\x00' ∉ path.toText.toList ∧ path.toText.utf8ByteSize ≤ maxPathBytes := by
  -- Both tests can refuse the text.
  unfold accept
  by_cases null : '\x00' ∈ path.toText.toList
  · simp [null]
  · by_cases short : path.toText.utf8ByteSize ≤ maxPathBytes
    · simp [null, short, Nat.not_lt.2 short]
    · simp [null, short, Nat.not_le.1 short]

/-- A path leads to a node exactly if the system takes it and the walk along it ends there. -/
theorem find_eq_ok {disk : Disk} {path : Path} {place : Location} :
    disk.find path = .ok place ↔
      accept path = .ok () ∧ disk.walk (startOf path) path.parts = .ok place := by
  -- Without the first of them, the walk does not begin.
  unfold find
  cases accept path with
  | error refusal => simp [Bind.bind, Except.bind]
  | ok _ => simp [Bind.bind, Except.bind]

/-- A later disk keeps every node of an earlier one, and all bytes but those of touched files; only
touched files are new. -/
structure Keeps (touched : Location → Prop) (before after : Disk) : Prop where
  directories : ∀ {place}, before.node? place = some .directory →
    after.node? place = some .directory
  files : ∀ {place content}, before.fileAt? place = some content → ¬touched place →
    after.fileAt? place = some content
  present : ∀ {place}, before.nodes.contains place = true → after.nodes.contains place = true
  earlier : ∀ {place content}, after.fileAt? place = some content → ¬touched place →
    before.fileAt? place = some content

/-- The places that an operation touches when it touches none. -/
def nowhere : Location → Prop := fun _ => False

namespace Keeps

variable {touched : Location → Prop} {first second third : Disk}

/-- A disk keeps its own nodes. -/
theorem refl (touched : Location → Prop) (disk : Disk) : Keeps touched disk disk :=
  ⟨id, fun held _ => held, id, fun held _ => held⟩

/-- What two steps keep, both together keep. -/
theorem trans (left : Keeps touched first second) (right : Keeps touched second third) :
    Keeps touched first third :=
  ⟨fun held => right.directories (left.directories held),
    fun held spared => right.files (left.files held spared) spared,
    fun held => right.present (left.present held),
    fun held spared => left.earlier (right.earlier held spared) spared⟩

/-- Touching more places keeps less. -/
theorem weaken {wider : Location → Prop} (kept : Keeps touched first second)
    (inside : ∀ place, touched place → wider place) : Keeps wider first second :=
  ⟨kept.directories, fun held spared => kept.files held fun hit => spared (inside _ hit),
    kept.present, fun held spared => kept.earlier held fun hit => spared (inside _ hit)⟩

/-- Directories stay directories, the root among them. -/
theorem isDirectoryAt (kept : Keeps touched first second) {place : Location}
    (held : first.isDirectoryAt place = true) : second.isDirectoryAt place = true := by
  -- Only a place below the root has a node of its own.
  cases place with
  | nil => rfl
  | cons name rest =>
    simp only [Disk.isDirectoryAt, directoryIn, beq_iff_eq] at held ⊢
    exact kept.directories held

/-- What is found before is found afterwards. -/
theorem walk (kept : Keeps touched first second) {place found : Location} {names : List String}
    (reached : first.walk place names = .ok found) : second.walk place names = .ok found := by
  -- Each step of the walk starts in a directory and ends at a node, and both stay.
  induction names generalizing place with
  | nil => simpa [Disk.walk] using reached
  | cons name rest ih =>
    obtain ⟨inside, ⟨up, later⟩ | ⟨down, short, there, later⟩⟩ := walk_cons_eq_ok.1 reached
    · exact walk_cons_eq_ok.2 ⟨kept.isDirectoryAt inside, Or.inl ⟨up, ih later⟩⟩
    · exact walk_cons_eq_ok.2 ⟨kept.isDirectoryAt inside,
        Or.inr ⟨down, short, kept.present there, ih later⟩⟩

/-- A path that leads to a node leads there afterwards. -/
theorem find (kept : Keeps touched first second) {path : Path} {place : Location}
    (found : first.find path = .ok place) : second.find path = .ok place := by
  -- Whether the system takes a path does not depend on the disk.
  obtain ⟨accepted, reached⟩ := find_eq_ok.1 found
  exact find_eq_ok.2 ⟨accepted, kept.walk reached⟩

end Keeps

/-- A file is a node that holds bytes. -/
theorem fileAt?_eq_some {disk : Disk} {place : Location} {content : ByteArray} :
    disk.fileAt? place = some content ↔ disk.node? place = some (.file content) := by
  -- A directory is the one other kind of node.
  unfold fileAt?
  cases disk.node? place with
  | none => simp
  | some node => cases node <;> simp

/-- A node put where no directory stands keeps all others. -/
theorem keeps_of_put {before after : Disk} {place : Location} {node : Node}
    (put : after.nodes = before.nodes.put place node)
    (fresh : before.node? place ≠ some .directory) : Keeps (· = place) before after := by
  -- Every other place reads as before, and the place itself held no directory.
  refine ⟨?_, ?_, ?_, ?_⟩
  · intro other held
    have different : other ≠ place := fun same => fresh (same ▸ held)
    simpa [node?, put, Table.find?_put, different] using held
  · intro other content held spared
    rw [fileAt?_eq_some] at held ⊢
    simpa [node?, put, Table.find?_put, spared] using held
  · intro other held
    simp only [Table.contains, put, Table.find?_put] at held ⊢
    split
    · rfl
    · exact held
  · intro other content held spared
    rw [fileAt?_eq_some] at held ⊢
    simpa [node?, put, Table.find?_put, spared] using held

/-- Writing a file touches its place alone. -/
theorem keeps_putFile (disk : Disk) (name : String) (place : Location) (content : ByteArray) :
    Keeps (· = name :: place) disk (disk.putFile name place content) := by
  -- A file that does not fit is not written at all.
  unfold putFile
  split
  · rename_i fits
    exact keeps_of_put rfl fits.2
  · exact Keeps.refl _ disk

/-- Adding a directory touches no file. -/
theorem keeps_addDirectory (disk : Disk) (name : String) (place : Location) :
    Keeps nowhere disk (disk.addDirectory name place) := by
  unfold addDirectory
  split
  · rename_i fits
    -- The one place that is put holds nothing before, so it holds no file.
    have fresh : disk.node? (name :: place) ≠ some .directory := by rw [fits.2]; simp
    have kept := @keeps_of_put disk ⟨disk.nodes.put (name :: place) .directory,
      disk.closed_put fits.1 fresh⟩ (name :: place) .directory rfl fresh
    refine ⟨kept.directories, fun held _ => kept.files held ?_, kept.present,
      fun held _ => kept.earlier held ?_⟩
    · intro same
      rw [same, fileAt?_eq_some, fits.2] at held
      cases held
    -- Afterwards it holds the directory.
    · intro same
      rw [same, fileAt?_eq_some, node?, Table.find?_put, if_pos rfl] at held
      cases held
  · exact Keeps.refl _ disk

/-- A file that fits is there once it is written. -/
theorem fileAt?_putFile {disk : Disk} {name : String} {place : Location} (content : ByteArray)
    (inside : disk.isDirectoryAt place = true) (named : isNodeName name = true)
    (fresh : disk.node? (name :: place) ≠ some .directory) :
    (disk.putFile name place content).fileAt? (name :: place) = some content := by
  -- The table of the new disk has the file at its place.
  rw [fileAt?_eq_some, putFile, dif_pos ⟨⟨inside, named⟩, fresh⟩]
  simp [node?, Table.find?_put]

/-- A file stands in a directory under a proper name. -/
theorem file_inside {disk : Disk} {name : String} {place : Location} {content : ByteArray}
    (held : disk.fileAt? (name :: place) = some content) :
    disk.isDirectoryAt place = true ∧ isNodeName name = true := by
  -- The disk carries the proof of this for every one of its nodes.
  rw [fileAt?_eq_some] at held
  have found : disk.nodes.find? (name :: place) = some (.file content) := held
  exact disk.closed name place (by simp [Table.contains, found])

/-- Appending to a file touches its place alone. -/
theorem keeps_appendAt (disk : Disk) (place : Location) (more : ByteArray) :
    Keeps (· = place) disk (disk.appendAt place more) := by
  -- Appending writes the whole file anew, if there is one.
  unfold appendAt
  split
  · exact keeps_putFile disk _ _ _
  · exact Keeps.refl _ disk

/-- Appended bytes follow those that were there; only the root holds no file to append to. -/
theorem fileAt?_appendAt {disk : Disk} {place : Location} {content : ByteArray}
    (below : place ≠ []) (held : disk.fileAt? place = some content) (more : ByteArray) :
    (disk.appendAt place more).fileAt? place = some (content ++ more) := by
  -- The file fits where it stands, so it is written anew with the longer content.
  cases place with
  | nil => exact absurd rfl below
  | cons name outer =>
    obtain ⟨inside, named⟩ := file_inside held
    have written : disk.appendAt (name :: outer) more =
        disk.putFile name outer (content ++ more) := by
      simp [appendAt, held]
    rw [written]
    refine fileAt?_putFile _ inside named ?_
    rw [fileAt?_eq_some] at held
    simp [held]

/-- Making one directory touches no file. -/
theorem keeps_makeDirectory {disk made : Disk} {path : Path}
    (result : disk.makeDirectory path = .ok made) : Keeps nowhere disk made := by
  -- Whatever refuses the directory leaves no disk behind.
  unfold makeDirectory at result
  split at result
  · cases result
  · cases result
  · split at result
    · cases result
    · cases result
      exact keeps_addDirectory disk _ _

/-- Making directories touches no file, whether it ends well or not. -/
theorem keeps_makeDirectories (disk : Disk) (path : Path) :
    Keeps nowhere disk (disk.makeDirectories path).2 := by
  -- The recursion makes the directories above, and then at most one more.
  induction path using makeDirectories.induct_unfolding disk with
  | case1 path made result => exact keeps_makeDirectory result
  | case3 path text result deeper fault made outer ih => simpa [outer] using ih
  | case4 path text result deeper made outer last inner ih =>
    have above : Keeps nowhere disk made := by simpa [outer] using ih
    exact above.trans (keeps_makeDirectory inner)
  | case5 path text result deeper made outer again inner ih => simpa [outer] using ih
  | case6 path text result deeper made outer fault other inner ih => simpa [outer] using ih
  | case2 | case7 | case8 => exact Keeps.refl _ disk

/-- A walk along two lists of names is a walk along the first and then along the second. -/
theorem walk_append (disk : Disk) (place : Location) (names more : List String) :
    disk.walk place (names ++ more) =
      (disk.walk place names).bind fun found => disk.walk found more := by
  -- The first list is used up name by name, and a refusal ends both sides.
  induction names generalizing place with
  | nil => rfl
  | cons name rest ih =>
    simp only [List.cons_append, walk]
    -- A step is refused, goes up, is refused for its name, or goes down.
    split
    · rfl
    · split
      · exact ih _
      · split
        · rfl
        · split
          · exact ih _
          · rfl

/-- Without parents among the names, a walk ends at the place that they spell. -/
theorem walk_plain {disk : Disk} {place found : Location} {names : List String}
    (plain : ".." ∉ names) (reached : disk.walk place names = .ok found) :
    found = names.reverse ++ place := by
  -- Every name goes one step down.
  induction names generalizing place with
  | nil => simpa [walk] using reached.symm
  | cons name rest ih =>
    obtain ⟨_, ⟨up, _⟩ | ⟨_, _, _, later⟩⟩ := walk_cons_eq_ok.1 reached
    · exact absurd (by simp [up]) plain
    · rw [ih (fun inside => plain (List.mem_cons_of_mem _ inside)) later]
      simp

/-- A path has room for a node: its last component, in the directory to which the others lead. -/
structure Room (disk : Disk) (path : Path) (name : String) (place : Location) : Prop where
  accepted : accept path = .ok ()
  parts : path.parts = path.parts.dropLast ++ [name]
  reached : disk.walk (startOf path) path.parts.dropLast = .ok place
  inside : disk.isDirectoryAt place = true
  down : name ≠ ".."
  short : name.utf8ByteSize ≤ maxNameBytes

/-- The slot of a path is where it has room. -/
theorem slot_eq_some_iff {disk : Disk} {path : Path} {name : String} {place : Location} :
    disk.slot path = .ok (some (name, place)) ↔ Room disk path name place := by
  -- Each test on the way to the slot fails, or gives one part of the room.
  constructor
  · intro result
    unfold slot at result
    cases accepted : accept path with
    | error refusal => simp [accepted, Bind.bind, Except.bind] at result
    | ok _ =>
      cases reached : disk.walk (startOf path) path.parts.dropLast with
      | error refusal => simp [accepted, reached, Bind.bind, Except.bind] at result
      | ok outer =>
        -- The tests are those of the text, the walk, the directory, the name and its length.
        by_cases inside : disk.isDirectoryAt outer = true
        · cases last : path.parts.getLast? with
          | none => simp [accepted, reached, inside, last, Bind.bind, Except.bind] at result
          | some component =>
            obtain ⟨others, parts⟩ := List.getLast?_eq_some_iff.1 last
            simp only [accepted, reached, inside, last, Bind.bind, Except.bind, Bool.not_true,
              Bool.false_eq_true, if_false] at result
            split at result
            · cases result
            · rename_i down
              split at result
              · cases result
              · rename_i short
                cases result
                exact ⟨accepted, by simp [parts], reached, inside, by simpa using down,
                  Nat.not_lt.1 short⟩
        · simp [accepted, reached, inside, Bind.bind, Except.bind] at result
  · rintro ⟨accepted, parts, reached, inside, down, short⟩
    have last : path.parts.getLast? = some name := by rw [parts]; simp
    simp [slot, accepted, reached, inside, last, down, Nat.not_lt.2 short, Bind.bind, Except.bind]

namespace Room

variable {disk : Disk} {path : Path} {name : String} {place : Location}

/-- The last component of a path with room can name a node. -/
theorem named (room : Room disk path name place) : isNodeName name = true := by
  -- Components are neither empty nor dots, and the last one is no parent.
  have component := path.proper name (by rw [room.parts]; simp)
  simp [isNodeName, component, room.down]

/-- A path with room leads to its node as soon as there is one. -/
theorem find (room : Room disk path name place) {touched : Location → Prop} {later : Disk}
    (kept : Keeps touched disk later) (there : later.nodes.contains (name :: place) = true) :
    later.find path = .ok (name :: place) := by
  -- The walk reaches the directory as before, and takes one more step.
  have step : later.walk place [name] = .ok (name :: place) :=
    walk_cons_eq_ok.2 ⟨kept.isDirectoryAt room.inside, Or.inr ⟨room.down, room.short, there, rfl⟩⟩
  rw [find_eq_ok, room.parts, walk_append, kept.walk room.reached]
  exact ⟨room.accepted, step⟩

end Room

/-- A place with a file has a node. -/
theorem contains_of_fileAt? {disk : Disk} {place : Location} {content : ByteArray}
    (held : disk.fileAt? place = some content) : disk.nodes.contains place = true := by
  rw [fileAt?_eq_some, node?] at held
  simp [Table.contains, held]

/-- A file is created where its path has room, unless there is a directory. -/
theorem create_room {disk later : Disk} {path : Path} {place : Location}
    (result : disk.create path = .ok (place, later)) :
    ∃ name outer, place = name :: outer ∧ Room disk path name outer ∧
      disk.node? (name :: outer) ≠ some .directory ∧ later = disk.putFile name outer .empty := by
  -- Every other answer to the question for a slot is a refusal.
  unfold create at result
  split at result
  · cases result
  · cases result
  · rename_i name outer slot
    split at result
    · cases result
    · rename_i free
      cases result
      refine ⟨name, outer, rfl, slot_eq_some_iff.1 slot, ?_, rfl⟩
      simpa [isDirectoryAt, directoryIn, node?] using free

/-- What is known when a file was opened for writing: it is empty, it is where the path leads, and
nothing else was touched. -/
theorem create_ok {disk later : Disk} {path : Path} {place : Location}
    (result : disk.create path = .ok (place, later)) :
    place ≠ [] ∧ later.find path = .ok place ∧ later.fileAt? place = some .empty ∧
      Keeps (· = place) disk later := by
  -- Its place is free of directories, so the file is written there.
  obtain ⟨name, outer, rfl, room, fresh, rfl⟩ := create_room result
  have kept := keeps_putFile disk name outer .empty
  have written := fileAt?_putFile .empty room.inside room.named fresh
  exact ⟨by simp, room.find kept (contains_of_fileAt? written), written, kept⟩

/-- A file reads as its bytes. -/
theorem readFile_eq_ok {disk : Disk} {path : Path} {content : ByteArray} :
    disk.readFile path = .ok content ↔
      ∃ place, disk.find path = .ok place ∧ disk.fileAt? place = some content := by
  -- Reading can fail at the path, and at what stands there.
  unfold readFile
  cases disk.find path with
  | error refusal => simp
  | ok place => cases bytes : disk.fileAt? place <;> simp [bytes]

/-- A file that is not touched reads as before. -/
theorem Keeps.readFile {touched : Location → Prop} {before after : Disk} {path : Path}
    {content : ByteArray} (kept : Keeps touched before after)
    (held : before.readFile path = .ok content)
    (spared : ∀ place, before.find path = .ok place → ¬touched place) :
    after.readFile path = .ok content := by
  -- The path leads to the same place, whose bytes are kept.
  rw [readFile_eq_ok] at held ⊢
  obtain ⟨place, found, bytes⟩ := held
  exact ⟨place, kept.find found, kept.files bytes (spared place found)⟩

end Disk

/-- Relative paths without parents: each of them leads to a place of its own. -/
structure Path.Plain (path : Path) : Prop where
  relative : path.anchor = .relative
  down : ".." ∉ path.parts

instance (path : Path) : Decidable path.Plain :=
  decidable_of_iff (path.anchor = .relative ∧ ".." ∉ path.parts)
    ⟨fun ⟨relative, down⟩ => ⟨relative, down⟩, fun plain => ⟨plain.relative, plain.down⟩⟩

namespace Disk

/-- A plain path leads to the place that its components spell. -/
theorem find_plain {disk : Disk} {path : Path} {place : Location} (plain : path.Plain)
    (found : disk.find path = .ok place) : place = path.parts.reverse ++ home := by
  -- The walk starts in the working directory, and never goes up.
  obtain ⟨_, reached⟩ := find_eq_ok.1 found
  simpa [startOf, plain.relative] using walk_plain plain.down reached

/-- Two plain paths that lead to one place, on whatever disks, are the same. -/
theorem plain_injective {first second : Disk} {path other : Path} {place : Location}
    (plain : path.Plain) (plainOther : other.Plain) (found : first.find path = .ok place)
    (foundOther : second.find other = .ok place) : path = other := by
  -- Both spell the same place below the working directory.
  have spelled := (find_plain plain found).symm.trans (find_plain plainOther foundOther)
  rw [List.append_cancel_right_eq, List.reverse_inj] at spelled
  exact Path.ext (plain.relative.trans plainOther.relative.symm) spelled

end Disk

end Stencil
