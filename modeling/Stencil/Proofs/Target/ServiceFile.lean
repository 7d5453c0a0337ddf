import Stencil.Proofs.Sink.Utf8
import Stencil.Proofs.Target.Service

/-! Services on the sink of files: what a committed manifest leaves on the disk, and when it can be
committed once more. -/

namespace Stencil

/-- The content that a path leads to; where nothing can be read, there is none. -/
def Disk.contentAt? (disk : Disk) (path : Path) : Option ByteArray := (disk.readFile path).toOption

/-- The text that a path leads to; a file that is not there, or holds no text, counts as empty. -/
def FileSettings.textAt (settings : FileSettings) (disk : Disk) (path : Path) : String :=
  ((disk.contentAt? path).bind fun bytes => (settings.encoding.decode bytes).toOption).getD ""

namespace ServiceTarget

open Attempt

/-- The manifest of an earlier build is read without a change, whether it is there or not. -/
theorem existingEntries_file (settings : FileSettings) (key : TargetKey)
    (outlet : Outlet FileState) :
    ∃ log, existingEntries settings.sink key outlet =
      (.ok (Manifest.kept (settings.textAt outlet.state.disk
        (settings.resolve .classes key.package key.name))), { outlet with log }) := by
  obtain ⟨log, existing⟩ := existingEntries_apply settings.sink key outlet
  rw [FileSettings.readFrom_file] at existing
  refine ⟨log, existing.trans ?_⟩
  -- What cannot be read or decoded counts as empty on both sides.
  unfold FileSettings.textAt Disk.contentAt?
  cases outlet.state.disk.readFile (settings.resolve .classes key.package key.name) with
  | error fault => rfl
  | ok content =>
    simp only [Except.toOption, Option.bind_some]
    cases settings.encoding.decode content <;> rfl

/-- Committing a service writes the entries of the earlier manifest, merged with its own lines. -/
theorem complete_file (settings : FileSettings) (key : TargetKey) {target : ServiceTarget}
    (uncompleted : target.completed = false) (outlet : Outlet FileState) :
    ∃ before note shown, target.complete settings.sink key outlet =
      match settings.sink.writeTo .classes key.package key.name
        ((Manifest.merge (Manifest.kept (settings.textAt outlet.state.disk
          (settings.resolve .classes key.package key.name))) target.lines).map Manifest.line)
        { outlet with log := before } with
      | (.error _, after) => (.error shown, after)
      | (.ok _, after) => (.ok { target with artifact := some ⟨key, .service, false, false⟩ },
          { after with log := after.log ++ [note] }) := by
  -- Reading the entries of earlier builds leaves the disk as it is.
  obtain ⟨before, read⟩ := existingEntries_file settings key outlet
  unfold complete emit
  simp only [uncompleted, Bool.false_eq_true, if_false, bind_apply, pure_apply, outcome_apply,
    read]
  refine ⟨before, ?_⟩
  generalize Manifest.merge _ target.lines = entries
  rcases settings.sink.writeTo .classes key.package key.name (entries.map Manifest.line)
    { outlet with log := before } with ⟨failure | _, after⟩
  -- The failure that is shown depends on the one of writing alone.
  · by_cases refused : (failure.kind.isSystem || failure.kind == .destinationExists) = true
    · exact ⟨.debug "" "", .serviceNotWritten key failure.kind, by simp only [refused]; rfl⟩
    · exact ⟨.debug "" "", failure, by simp only [refused]; rfl⟩
  · exact ⟨_, .wrongType, rfl⟩

/-- A service whose manifest is there can be committed over it if its path does not count as
created. -/
theorem complete_again {settings : FileSettings} (utf8 : settings.encoding = .utf8)
    {key : TargetKey} {target : ServiceTarget} (uncompleted : target.completed = false)
    {path : Path} (resolved : settings.resolve .classes key.package key.name = path)
    (plain : path.Plain) (below : path.parts ≠ []) {outlet : Outlet FileState}
    {content : ByteArray} (held : outlet.state.disk.readFile path = .ok content)
    (fresh : path ∉ outlet.state.created) :
    ∃ next after, target.complete settings.sink key outlet = (.ok next, after) := by
  -- Whatever entries are written, their destination can be opened.
  obtain ⟨before, note, shown, same⟩ := complete_file settings key uncompleted outlet
  obtain ⟨location, later, log, wrote, _⟩ := @FileSettings.writeTo_again settings utf8 _ _ path
    resolved plain below { outlet with log := before } content held fresh _
  rw [wrote] at same
  exact ⟨_, _, same⟩

end ServiceTarget

end Stencil
