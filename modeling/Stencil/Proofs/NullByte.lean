import Stencil.Proofs.Sink.Utf8

/-! Null bytes in paths: they are the one refusal of the system that is no system failure, and what
they keep from being opened. -/

namespace Stencil

namespace Path

/-- A path has a null byte if one of its components has. -/
def HasNull (path : Path) : Prop := ∃ part ∈ path.parts, '\x00' ∈ part.toList

instance (path : Path) : Decidable path.HasNull :=
  inferInstanceAs (Decidable (∃ part ∈ path.parts, _))

/-- Texts with slashes between them have the characters of the texts, and slashes. -/
theorem mem_intercalate_slash {c : Char} (different : c ≠ '/') (texts : List String) :
    c ∈ ("/".intercalate texts).toList ↔ ∃ text ∈ texts, c ∈ text.toList := by
  induction texts with
  | nil => simp
  | cons text rest ih =>
    cases rest with
    | nil => simp
    | cons next others =>
      -- Behind the first text there is a slash, and then the others.
      have split := String.intercalate_append_of_ne_nil (s := "/") (List.cons_ne_nil text [])
        (List.cons_ne_nil next others)
      rw [List.singleton_append] at split
      rw [split, String.toList_append, List.mem_append, String.toList_append, List.mem_append, ih,
        String.intercalate_singleton]
      simp [different]

/-- The text of a path has a null byte exactly if the path has. -/
theorem mem_toText_iff (path : Path) : '\x00' ∈ path.toText.toList ↔ path.HasNull := by
  -- Neither the start of a path nor a dot has one.
  have anchor : '\x00' ∉ (anchorText path.anchor).toList := by cases path.anchor <;> decide
  have parts := mem_intercalate_slash (c := '\x00') (by decide) path.parts
  unfold toText HasNull
  rw [← parts]
  simp only
  split
  · rename_i empty
    simp only [beq_iff_eq, String.append_eq_empty_iff] at empty
    simp [empty.2]
  · simp [anchor]

/-- A path whose parent has a null byte has one itself. -/
theorem HasNull.of_parent {path : Path} (null : path.parent.HasNull) : path.HasNull := by
  obtain ⟨part, member, inside⟩ := null
  exact ⟨part, (List.dropLast_sublist path.parts).subset member, inside⟩

end Path

namespace Disk

/-- The system takes a path with a null byte for no path at all. -/
theorem accept_null {path : Path} : accept path = .error .nullByte ↔ path.HasNull := by
  -- A text that is too long is refused for another reason.
  rw [← Path.mem_toText_iff]
  unfold accept
  by_cases null : '\x00' ∈ path.toText.toList
  · simp [null]
  · by_cases short : maxPathBytes < path.toText.utf8ByteSize <;> simp [null, short]

/-- A walk is never refused for a null byte. -/
theorem walk_null (disk : Disk) (place : Location) (names : List String) :
    disk.walk place names ≠ .error .nullByte := by
  induction names generalizing place with
  | nil => simp [walk]
  | cons name rest ih =>
    rw [walk]
    -- A step ends at a name that is missing, that is too long or that is no directory.
    split
    · simp
    · split
      · exact ih _
      · split
        · simp
        · split
          · exact ih _
          · simp

/-- A path has no slot for a null byte exactly if it has one. -/
theorem slot_null {disk : Disk} {path : Path} :
    disk.slot path = .error .nullByte ↔ path.HasNull := by
  rw [← accept_null]
  unfold slot
  cases accepted : accept path with
  | error refusal => simp [Bind.bind, Except.bind]
  | ok _ =>
    -- Once the text of the path is taken, all refusals are others.
    have walked := walk_null disk (startOf path) path.parts.dropLast
    cases reached : disk.walk (startOf path) path.parts.dropLast with
    | error refusal =>
      rw [reached] at walked
      simpa [Bind.bind, Except.bind] using walked
    | ok outer =>
      simp only [Bind.bind, Except.bind]
      split
      · simp
      · split
        · simp
        · split
          · simp
          · split <;> simp

/-- Opening a file is refused for a null byte exactly if its path has one. -/
theorem create_null {disk : Disk} {path : Path} :
    (∃ text, disk.create path = .error ⟨.nullByte, text⟩) ↔ path.HasNull := by
  rw [← @slot_null disk]
  unfold create
  cases disk.slot path with
  | error refusal => simp
  | ok found =>
    -- A path with a slot has no null byte, and creating adds no such refusal.
    cases found with
    | none => simp
    | some pair => simp only; split <;> simp

/-- Making a directory is refused for a null byte exactly if its path has one. -/
theorem makeDirectory_null {disk : Disk} {path : Path} :
    (∃ text, disk.makeDirectory path = .error ⟨.nullByte, text⟩) ↔ path.HasNull := by
  rw [← @slot_null disk]
  unfold makeDirectory
  cases disk.slot path with
  | error refusal => simp
  | ok found =>
    -- Where there is a slot, the refusals are about what stands in it.
    cases found with
    | none => simp
    | some pair => simp only; split <;> simp

/-- A fault of making a directory is settled into none of a null byte. -/
theorem settle_null {disk : Disk} {path : Path} {fault : PathFault}
    (different : fault.refusal ≠ .nullByte) (text : String) :
    disk.settle path fault ≠ .error ⟨.nullByte, text⟩ := by
  -- The other faults are of names that are too long.
  intro same
  unfold settle pathIsDirectory at same
  split at same
  · cases same
  · cases same
    exact different rfl
  · rename_i other asked
    cases same
    split at asked <;> cases asked

/-- Making directories is refused for a null byte exactly if the path has one. -/
theorem makeDirectories_null (disk : Disk) (path : Path) :
    (∃ text, (disk.makeDirectories path).1 = .error ⟨.nullByte, text⟩) ↔ path.HasNull := by
  -- A null byte is noticed at once, and the directories above are made only without one.
  have clean : ∀ {disk : Disk} {path : Path} {answer : Except PathFault Disk},
      disk.makeDirectory path = answer → (∀ text, answer ≠ .error ⟨.nullByte, text⟩) →
        ¬path.HasNull := by
    intro disk path answer made different null
    obtain ⟨text, refused⟩ := (@makeDirectory_null disk path).2 null
    exact different text (made.symm.trans refused)
  induction path using makeDirectories.induct_unfolding disk with
  | case1 path made result =>
    exact iff_of_false (by simp) (clean result (by simp))
  | case2 path text result top =>
    exact iff_of_false (by simp) (clean result (by simp))
  -- The directories above are refused, so they decide.
  | case3 path text result deeper fault made outer ih =>
    have plain := clean result (by simp)
    rw [outer] at ih
    exact iff_of_false (fun refused => plain (.of_parent (ih.1 refused))) plain
  | case4 path text result deeper made outer last inner ih =>
    exact iff_of_false (by simp) (clean result (by simp))
  | case5 path text result deeper made outer again inner ih =>
    exact iff_of_false (by simp) (clean result (by simp))
  | case6 path text result deeper made outer fault other inner ih =>
    -- The same path is refused once more, and again not for a null byte.
    have plain := clean result (by simp)
    have different : fault.refusal ≠ .nullByte := by
      intro null
      refine plain ((@makeDirectory_null made path).1 ⟨fault.path, ?_⟩)
      rw [inner, ← null]
    refine iff_of_false ?_ plain
    rintro ⟨_, refused⟩
    exact settle_null different _ refused
  -- The path itself is refused for a null byte.
  | case7 path text result =>
    exact iff_of_true ⟨text, rfl⟩ (makeDirectory_null.1 ⟨text, result⟩)
  | case8 path fault known noted result =>
    have different : fault.refusal ≠ .nullByte := fun null => noted fault.path (by rw [← null])
    refine iff_of_false ?_ (clean result ?_)
    · rintro ⟨_, refused⟩
      exact settle_null different _ refused
    · intro text same
      cases same
      exact different rfl

end Disk

/-- A path that is opened for writing is refused for a null byte: it does not count as created, and
the directories above it have the null byte too, or can be made. -/
structure FileState.RefusesNull (state : FileState) (path : Path) : Prop where
  fresh : path ∉ state.created
  null : path.HasNull
  above : path.parent.HasNull ∨ (state.disk.makeDirectories path.parent).1 = .ok ()

namespace FileSettings

/-- Creating a path is refused for a null byte where it has one and the directories above it can be
made, or have one as well. -/
theorem openNew_null (path : Path) (state : FileState) :
    (∃ text, (openNew path state).1 = .error (.path ⟨.nullByte, text⟩)) ↔
      path.HasNull ∧
        (path.parent.HasNull ∨ (state.disk.makeDirectories path.parent).1 = .ok ()) := by
  -- The directories above are made first, and may be refused for the same byte.
  have above := Disk.makeDirectories_null state.disk path.parent
  rw [openNew_apply]
  rcases result : state.disk.makeDirectories path.parent with ⟨fault | _, made⟩
  -- The directories cannot be made, so they decide.
  · rw [result] at above
    constructor
    · rintro ⟨text, refused⟩
      simp only [Except.error.injEq, Failure.path.injEq] at refused
      have null := above.1 ⟨text, by rw [refused]⟩
      exact ⟨.of_parent null, Or.inl null⟩
    · rintro ⟨_, null | done⟩
      · obtain ⟨text, refused⟩ := above.2 null
        simp only [Except.error.injEq] at refused
        exact ⟨text, by rw [refused]⟩
      · cases done
  -- The file is created in directories that are there.
  · have created := @Disk.create_null made path
    cases opened : made.create path with
    | error fault =>
      rw [opened] at created
      simp only [opened, Except.error.injEq, Failure.path.injEq] at created ⊢
      rw [created]
      simp
    | ok pair =>
      rw [opened] at created
      simp only [opened] at created ⊢
      simpa using fun null => absurd null (by simpa using created)

/-- Opening a service file is refused for a null byte exactly if its path is. -/
theorem openOnce_null (settings : FileSettings) (package name : String) (state : FileState) :
    (∃ text, (settings.openOnce .classes package name state).1 = .error (.path ⟨.nullByte, text⟩)) ↔
      state.RefusesNull (settings.resolve .classes package name) := by
  rw [openOnce_apply]
  by_cases known : settings.resolve .classes package name ∈ state.created
  -- What counts as created is refused for another reason.
  · rw [if_pos known]
    exact iff_of_false (by simp) fun refuses => refuses.fresh known
  · have unasked : (settings.incremental && Place.classes == .sources) = false := by
      simp
    rw [if_neg known, unasked, if_neg (by simp), openNew_null]
    exact ⟨fun ⟨null, above⟩ => ⟨known, null, above⟩, fun refuses => ⟨refuses.null, refuses.above⟩⟩

end FileSettings

end Stencil
