import Stencil.Proofs.Pass.Touched
import Stencil.Proofs.Reopen
import Stencil.Proofs.Text.Encoding

/-! Writing a file and reading it again: the text comes back, no other file changes, and the
directories on the way to the file are all that is new. -/

namespace Stencil

namespace Disk

/-- A place lies on the way of a path if the first of its components lead there. -/
def OnWay (disk : Disk) (path : Path) (place : Location) : Prop :=
  ∃ above, above <+: path.parts ∧ disk.walk (startOf path) above = .ok place

/-- What lies on the way of a parent lies on the way of the path. -/
theorem OnWay.of_parent {disk : Disk} {path : Path} {place : Location}
    (way : disk.OnWay path.parent place) : disk.OnWay path place := by
  -- Both start at one place, and the parent lacks the last component only.
  obtain ⟨above, first, reached⟩ := way
  exact ⟨above, first.trans (List.dropLast_prefix path.parts), reached⟩

/-- What lies on the way of a path goes on doing so. -/
theorem OnWay.keeps {touched : Location → Prop} {before after : Disk} {path : Path}
    {place : Location} (way : before.OnWay path place) (kept : Keeps touched before after) :
    after.OnWay path place := by
  obtain ⟨above, first, reached⟩ := way
  exact ⟨above, first, kept.walk reached⟩

/-- The places on the way to the parent of a path that leads to a node are directories. -/
theorem OnWay.isDirectoryAt {disk : Disk} {path : Path} {place found : Location}
    (way : disk.OnWay path.parent place) (below : path.parts ≠ [])
    (led : disk.find path = .ok found) : disk.isDirectoryAt place = true := by
  -- At least the last component of the path is left, and its step starts in a directory.
  obtain ⟨above, ⟨rest, whole⟩, reached⟩ := way
  obtain ⟨name, parts⟩ := Path.parts_eq_parent_append below
  have onward := (find_eq_ok.1 led).2
  have start : startOf path = startOf path.parent := rfl
  rw [parts, ← whole, List.append_assoc, walk_append, start, reached] at onward
  cases rest with
  | nil | cons => exact (walk_cons_eq_ok.1 onward).1

/-- A node that is put is the only directory that can be new. -/
theorem isDirectoryAt_of_put {before after : Disk} {place other : Location} {node : Node}
    (put : after.nodes = before.nodes.put place node) (held : after.isDirectoryAt other = true) :
    before.isDirectoryAt other = true ∨ other = place ∧ node = .directory := by
  -- All other places hold what they held.
  cases other with
  | nil => exact Or.inl rfl
  | cons name outer =>
    simp only [isDirectoryAt, directoryIn, put, Table.find?_put, beq_iff_eq] at held ⊢
    split at held
    · rename_i same
      exact Or.inr ⟨same, Option.some.inj held⟩
    · exact Or.inl held

/-- Adding a directory makes no other. -/
theorem isDirectoryAt_addDirectory {disk : Disk} {name : String} {place other : Location}
    (held : (disk.addDirectory name place).isDirectoryAt other = true) :
    disk.isDirectoryAt other = true ∨ other = name :: place ∧
      (disk.addDirectory name place).nodes.contains (name :: place) = true := by
  unfold addDirectory at held ⊢
  split at held
  -- Where the directory fits, its place is the one entry that is new.
  · rename_i fits
    rw [dif_pos fits]
    refine (isDirectoryAt_of_put rfl held).imp_right ?_
    rintro ⟨same, _⟩
    exact ⟨same, by simp [Table.contains, Table.find?_put]⟩
  · exact Or.inl held

/-- Writing a file makes no directory. -/
theorem isDirectoryAt_putFile {disk : Disk} {name : String} {place other : Location}
    {content : ByteArray} (held : (disk.putFile name place content).isDirectoryAt other = true) :
    disk.isDirectoryAt other = true := by
  unfold putFile at held
  split at held
  -- The new entry is a file.
  · exact (isDirectoryAt_of_put rfl held).resolve_right (by simp)
  · exact held

/-- Appending to a file makes no directory. -/
theorem isDirectoryAt_appendAt {disk : Disk} {place other : Location} {more : ByteArray}
    (held : (disk.appendAt place more).isDirectoryAt other = true) :
    disk.isDirectoryAt other = true := by
  -- What is appended to is a file, and stays one.
  unfold appendAt at held
  split at held
  · exact isDirectoryAt_putFile held
  · exact held

/-- The one directory that is new when a path was made is where the path leads. -/
theorem onWay_makeDirectory {disk made : Disk} {path : Path} {place : Location}
    (result : disk.makeDirectory path = .ok made) (held : made.isDirectoryAt place = true) :
    disk.isDirectoryAt place = true ∨ made.OnWay path place := by
  -- What was there before is still there, so the path leads where it led.
  have kept := keeps_makeDirectory result
  unfold makeDirectory at result
  split at result
  · cases result
  · cases result
  · rename_i name outer slot
    split at result
    · cases result
    · cases result
      -- If it is new, it is in the slot of the path.
      rcases isDirectoryAt_addDirectory held with earlier | ⟨rfl, there⟩
      · exact Or.inl earlier
      · have found := (slot_eq_some_iff.1 slot).find kept there
        exact Or.inr ⟨path.parts, List.prefix_rfl, (find_eq_ok.1 found).2⟩

/-- Directories that are new when a path was made with those above it lie on its way. -/
theorem onWay_makeDirectories {disk made : Disk} {path : Path} {result : Except PathFault Unit}
    (done : disk.makeDirectories path = (result, made)) {place : Location}
    (held : made.isDirectoryAt place = true) :
    disk.isDirectoryAt place = true ∨ made.OnWay path place := by
  -- The recursion makes the directories above, and then at most one more.
  induction path using makeDirectories.induct_unfolding disk generalizing result made with
  | case1 path only single =>
    cases done
    exact onWay_makeDirectory single held
  -- Where the directories above cannot be made, only those made so far are new.
  | case3 path text single deeper fault above outer ih =>
    cases done
    exact (ih outer held).imp_right OnWay.of_parent
  -- The last directory is the one of the path itself.
  | case4 path text single deeper above outer last inner ih =>
    cases done
    rcases onWay_makeDirectory inner held with earlier | way
    · exact (ih outer earlier).imp_right fun way =>
        way.of_parent.keeps (keeps_makeDirectory inner)
    · exact Or.inr way
  | case5 path text single deeper above outer again inner ih =>
    cases done
    exact (ih outer held).imp_right OnWay.of_parent
  | case6 path text single deeper above outer fault other inner ih =>
    cases done
    exact (ih outer held).imp_right OnWay.of_parent
  | case2 | case7 | case8 =>
    cases done
    exact Or.inl held

end Disk

namespace FileSettings

/-- A destination was opened if the directories above it could be made and its file created. -/
theorem openOnce_eq_ok {settings : FileSettings} {place : Place} {package name : String}
    {state opened : FileState} {file : OpenFile}
    (accepted : settings.openOnce place package name state = (.ok file, opened)) :
    ∃ made,
      state.disk.makeDirectories (settings.resolve place package name).parent = (.ok (), made) ∧
      made.create (settings.resolve place package name) = .ok (file.location, opened.disk) := by
  -- Nothing else than creating the file answers with one.
  have new : openNew (settings.resolve place package name) state = (.ok file, opened) := by
    rw [openOnce_apply] at accepted
    split at accepted
    · cases accepted
    · split at accepted
      · split at accepted
        · cases accepted
        · cases accepted
        · exact accepted
      · exact accepted
  -- A file is created only behind the directories above it.
  rw [openNew_apply] at new
  split at new
  · cases new
  · rename_i made above
    refine ⟨made, above, ?_⟩
    split at new
    · cases new
    · rename_i location later created
      cases new
      exact created

/-- What a file holds is read from it, and reading changes nothing. -/
theorem reads_back {settings : FileSettings} {place : Place} {package name text : String}
    {state : FileState} {location : Location} {bytes : ByteArray}
    (found : state.disk.find (settings.resolve place package name) = .ok location)
    (held : state.disk.fileAt? location = some bytes)
    (decoded : settings.encoding.decode bytes = .ok text) :
    (do
      let file ← settings.sink.openRead place package name
      settings.sink.during file (settings.sink.read file)) state = (.ok text, state) := by
  -- The file that is opened is the one to which the path leads.
  have content := Disk.readFile_eq_ok.2 ⟨location, found, held⟩
  have again : settings.openExisting place package name state =
      (.ok ⟨settings.resolve place package name, location⟩, state) := by
    simp only [openExisting, Attempt.bind_apply, Attempt.state_apply, onDisk_apply,
      Attempt.pure_apply, content, found, mapError_ok, Except.toOption, Option.getD_some]
  refine (Attempt.bind_of_ok again _).trans ?_
  rw [during_file]
  show settings.readText _ state = _
  simp only [readText, Attempt.bind_apply, Attempt.state_apply, Attempt.ofExcept_apply, held,
    Option.getD_some, decoded, mapError_ok]

/-- What was written to a destination and closed is read from it again; every other file keeps its
bytes, every directory stays, and the new ones are those on the way to the file. -/
theorem written_reads_back (settings : FileSettings) (place : Place) (package name text : String)
    {state opened : FileState} {file : OpenFile}
    (accepted : settings.sink.openWrite place package name state = (.ok file, opened))
    (expressed : ∀ c ∈ text.toList, settings.encoding.expresses c = true) :
    ∃ closed, settings.sink.during file (settings.sink.write file text) opened = (.ok (), closed) ∧
      (do
        let again ← settings.sink.openRead place package name
        settings.sink.during again (settings.sink.read again)) closed = (.ok text, closed) ∧
      closed.disk.find (settings.resolve place package name) = .ok file.location ∧
      (∀ other, other ≠ file.location →
        closed.disk.fileAt? other = state.disk.fileAt? other) ∧
      ∀ other, closed.disk.isDirectoryAt other = true ↔ state.disk.isDirectoryAt other = true ∨
        closed.disk.OnWay (settings.resolve place package name).parent other := by
  obtain ⟨made, above, created⟩ := openOnce_eq_ok accepted
  obtain ⟨bytes, encoded⟩ := Encoding.encode_isOk_iff.2 expressed
  obtain ⟨below, found, empty, touched⟩ := Disk.create_ok created
  obtain ⟨last, outer, _, room, _, put⟩ := Disk.create_room created
  -- The disk goes through three steps: directories, the empty file, and its bytes.
  have wrote := write_apply settings file text opened
  simp only [encoded] at wrote
  have filled := Disk.fileAt?_appendAt below empty bytes
  have appended := Disk.keeps_appendAt opened.disk file.location bytes
  have outward := Disk.keeps_makeDirectories state.disk (settings.resolve place package name).parent
  rw [above] at outward
  have kept := ((outward.weaken fun _ never => never.elim).trans touched).trans appended
  have leads := appended.find found
  refine ⟨_, (during_file settings file _ opened).trans wrote,
    reads_back leads (by simpa using filled) (Encoding.decode_encode encoded), leads, ?_, ?_⟩
  · exact fun other spared => kept.fileAt?_eq spared
  · intro other
    -- A directory at the end was there before, or was made for the file.
    constructor
    · intro held
      have before := Disk.isDirectoryAt_appendAt held
      rw [put] at before
      refine (Disk.onWay_makeDirectories above (Disk.isDirectoryAt_putFile before)).imp_right ?_
      exact fun way => way.keeps (touched.trans appended)
    · rintro (earlier | way)
      · exact kept.isDirectoryAt earlier
      · exact way.isDirectoryAt (by rw [room.parts]; simp) leads

/-- Sources in one byte for each character, below a root with a detour. -/
def detour : FileSettings :=
  ⟨Path.ofString "gen/../lib", Path.ofString "res", true, .latin1⟩

/-- Neither the detour nor the line breaks of the text keep it from being read again. -/
theorem detour_reads_back :
    ∃ file opened closed,
      detour.sink.openWrite .sources "a" "m.txt" (.start Disk.fresh) = (.ok file, opened) ∧
      detour.sink.during file (detour.sink.write file "é\r\n\r\x00ÿ\n") opened =
        (.ok (), closed) ∧
      (do
        let again ← detour.sink.openRead .sources "a" "m.txt"
        detour.sink.during again (detour.sink.read again)) closed =
          (.ok "é\r\n\r\x00ÿ\n", closed) := by
  have expressed : "é\r\n\r\x00ÿ\n".toList.all detour.encoding.expresses = true := by
    decide +kernel
  -- The directory of the detour exists, so the destination opens.
  have opens : (detour.openOnce .sources "a" "m.txt" (.start Disk.fresh)).1.isOk = true := by
    decide +kernel
  rcases answer : detour.openOnce .sources "a" "m.txt" (.start Disk.fresh) with
    ⟨failure | file, opened⟩
  · rw [answer] at opens
    cases opens
  · obtain ⟨closed, wrote, reads, _⟩ :=
      detour.written_reads_back .sources "a" "m.txt" "é\r\n\r\x00ÿ\n" answer
        (List.all_eq_true.1 expressed)
    exact ⟨file, opened, closed, answer, wrote, reads⟩

end FileSettings

end Stencil
