import Stencil.Proofs.Sink.Streams
import Stencil.Target.Source

/-! Laws of source targets on any sink: what writing a source can come to, and what committing it
leaves behind. -/

namespace Stencil

namespace SourceTarget

open Attempt

variable {σ : Type}

/-- The diagnostic of a destination that holds the same text already. -/
def regeneratedDiagnostic (key : TargetKey) : Diagnostic :=
  ⟨.warning, s!"Regenerated file with the same content: {key.toText}"⟩

/-- The diagnostic of a destination that holds another text. -/
def overwriteDiagnostic (key : TargetKey) (reason : Failure) : Diagnostic :=
  ⟨.error, "Generated source file name collision. " ++
    s!"Attempt to overwrite already generated file: {key.toText}, {reason.message}"⟩

/-- What writing the formatted text of a source can come to. -/
inductive Emission (sink : Sink σ) (key : TargetKey) (fileName text : String)
    (outlet : Outlet σ) : Except Failure Artifact → Outlet σ → Prop where
  /-- The text was written. -/
  | fresh {after : Outlet σ}
      (wrote : sink.writeTo .sources key.package fileName [text] outlet = (.ok (), after)) :
      Emission sink key fileName text outlet (.ok ⟨key, .source, false, false⟩) after
  /-- The destination counts as created, and holds the text. -/
  | regenerated {failure : Failure} {refused after : Outlet σ} {log : List LogRecord}
      (wrote : sink.writeTo .sources key.package fileName [text] outlet = (.error failure, refused))
      (occupied : failure.kind = .destinationExists)
      (held : sink.readFrom .sources "" (key.packagePath ++ fileName) refused = (.ok text, after)) :
      Emission sink key fileName text outlet (.ok ⟨key, .source, true, false⟩)
        ⟨after.state, after.diagnostics ++ [regeneratedDiagnostic key], log⟩
  /-- The destination counts as created, and holds another text or none. -/
  | collided {failure : Failure} {answer : Except Failure String} {refused after : Outlet σ}
      {log : List LogRecord}
      (wrote : sink.writeTo .sources key.package fileName [text] outlet = (.error failure, refused))
      (occupied : failure.kind = .destinationExists)
      (held : sink.readFrom .sources "" (key.packagePath ++ fileName) refused = (answer, after))
      (other : answer ≠ .ok text) :
      Emission sink key fileName text outlet (.ok ⟨key, .source, false, true⟩)
        ⟨after.state, after.diagnostics ++ [overwriteDiagnostic key failure], log⟩
  /-- Writing failed for another reason. -/
  | failed {failure shown : Failure} {refused : Outlet σ}
      (wrote : sink.writeTo .sources key.package fileName [text] outlet = (.error failure, refused))
      (unrelated : failure.kind ≠ .destinationExists) :
      Emission sink key fileName text outlet (.error shown) refused

/-- A destination holds a text already if reading it back answers with that text. -/
theorem holdsAlready_apply (sink : Sink σ) (key : TargetKey) (fileName text : String)
    (outlet : Outlet σ) :
    ∃ log, holdsAlready sink key fileName text outlet =
      match sink.readFrom .sources "" (key.packagePath ++ fileName) outlet with
      | (.ok existing, after) => (.ok (existing == text), { after with log })
      | (.error _, after) => (.ok false, { after with log }) := by
  -- A failure of reading adds to the log, and nothing else does.
  unfold holdsAlready
  rw [bind_apply, outcome_apply]
  rcases sink.readFrom .sources "" (key.packagePath ++ fileName) outlet with ⟨failure | existing, after⟩
  · exact ⟨_, rfl⟩
  · exact ⟨after.log, rfl⟩

/-- Settling a destination that counts as created comes to the same text or to another one. -/
theorem settle_emission {sink : Sink σ} {key : TargetKey} {fileName text : String}
    {outlet refused : Outlet σ} {failure : Failure}
    (wrote : sink.writeTo .sources key.package fileName [text] outlet = (.error failure, refused))
    (occupied : failure.kind = .destinationExists) :
    Emission sink key fileName text outlet (settle sink key fileName text failure refused).1
      (settle sink key fileName text failure refused).2 := by
  -- What is read back decides.
  obtain ⟨log, holds⟩ := holdsAlready_apply sink key fileName text refused
  unfold settle
  rw [bind_apply, holds]
  rcases held : sink.readFrom .sources "" (key.packagePath ++ fileName) refused with
    ⟨lost | existing, after⟩
  -- What cannot be read back counts as another text.
  · show Emission sink key fileName text outlet _
      ⟨after.state, after.diagnostics ++ [overwriteDiagnostic key failure], _⟩
    exact .collided wrote occupied held nofun
  -- A text that is read back is the same one or another one.
  · by_cases same : existing = text
    · subst same
      simp only [beq_self_eq_true, if_true]
      show Emission sink key fileName existing outlet _
        ⟨after.state, after.diagnostics ++ [regeneratedDiagnostic key], _⟩
      exact .regenerated wrote occupied held
    · have unequal : (existing == text) = false := by simpa using same
      simp only [unequal, Bool.false_eq_true, if_false]
      show Emission sink key fileName text outlet _
        ⟨after.state, after.diagnostics ++ [overwriteDiagnostic key failure], _⟩
      exact .collided wrote occupied held fun equal => same (Except.ok.inj equal)

/-- Writing a source comes to one of the four. -/
theorem emit_emission (sink : Sink σ) (key : TargetKey) (fileName text : String)
    (outlet : Outlet σ) :
    Emission sink key fileName text outlet (emit sink key fileName text outlet).1
      (emit sink key fileName text outlet).2 := by
  -- Only a destination that counts as created is looked at once more.
  unfold emit
  rw [bind_apply, outcome_apply]
  rcases wrote : sink.writeTo .sources key.package fileName [text] outlet with
    ⟨failure | _, refused⟩
  · by_cases occupied : failure.kind = .destinationExists
    · simpa [occupied] using settle_emission wrote occupied
    · by_cases system : failure.kind.isSystem = true
      · simpa [occupied, system] using Emission.failed wrote occupied
      · simpa [occupied, system] using Emission.failed wrote occupied
  · exact .fresh wrote

/-- What writing a source came to is one of the four. -/
theorem emission_of_emit {sink : Sink σ} {key : TargetKey} {fileName text : String}
    {outlet after : Outlet σ} {result : Except Failure Artifact}
    (emitted : emit sink key fileName text outlet = (result, after)) :
    Emission sink key fileName text outlet result after := by
  -- Writing has one outcome, so its equation fixes which of them it is.
  have emission := emit_emission sink key fileName text outlet
  rw [emitted] at emission
  exact emission

/-- Neither a refused writing nor reading back reports anything. -/
theorem occupied_diagnostics {sink : Sink σ} {key : TargetKey} {fileName text : String}
    {outlet refused after : Outlet σ} {failure : Failure} {answer : Except Failure String}
    (wrote : sink.writeTo .sources key.package fileName [text] outlet = (.error failure, refused))
    (held : sink.readFrom .sources "" (key.packagePath ++ fileName) refused = (answer, after)) :
    after.diagnostics = outlet.diagnostics := by
  -- What was refused reported nothing, and reading goes on from there.
  have written := sink.writeTo_diagnostics .sources key.package fileName [text] outlet
  have read := sink.readFrom_diagnostics .sources "" (key.packagePath ++ fileName) refused
  rw [wrote] at written
  rw [held] at read
  exact Eq.trans read written

/-- A commit keeps what was reported before it, and adds at most one diagnostic of its own. -/
theorem Emission.reported {sink : Sink σ} {key : TargetKey} {fileName text : String}
    {outlet after : Outlet σ} {result : Except Failure Artifact}
    (emission : Emission sink key fileName text outlet result after) :
    ∃ added, after.diagnostics = outlet.diagnostics ++ added ∧ added.length ≤ 1 := by
  -- Each of the four names what it adds.
  cases emission with
  | fresh wrote =>
    have same := sink.writeTo_diagnostics .sources key.package fileName [text] outlet
    rw [wrote] at same
    exact ⟨[], by simpa using same, by simp⟩
  | regenerated wrote occupied held =>
    exact ⟨[regeneratedDiagnostic key], by simp [occupied_diagnostics wrote held], by simp⟩
  | @collided failure _ _ _ _ wrote occupied held other =>
    exact ⟨[overwriteDiagnostic key failure], by simp [occupied_diagnostics wrote held], by simp⟩
  | failed wrote unrelated =>
    have same := sink.writeTo_diagnostics .sources key.package fileName [text] outlet
    rw [wrote] at same
    exact ⟨[], by simpa using same, by simp⟩

/-- Committing a source that is not committed formats its text, and then writes it. -/
theorem complete_apply (sink : Sink σ) (style : SourceStyle) (key : TargetKey)
    {target : SourceTarget} (uncommitted : target.committed = false) (outlet : Outlet σ) :
    ∃ log, target.complete sink style key outlet =
      match style.formatter target.content with
      | .error failure => (.error failure, outlet)
      | .ok text =>
        match emit sink key (key.name ++ style.suffix) text outlet with
        | (.error failure, after) => (.error failure, after)
        | (.ok artifact, after) => (.ok { target with artifact := some artifact }, { after with log }) := by
  -- Nothing is written for a text that the formatter refuses.
  unfold complete
  simp only [uncommitted, Bool.false_eq_true, if_false, bind_apply, pure_apply, ofExcept_apply]
  cases style.formatter target.content with
  | error failure => exact ⟨[], rfl⟩
  | ok text =>
    rcases emitted : emit sink key (key.name ++ style.suffix) text outlet with
      ⟨failure | artifact, after⟩
    · exact ⟨[], by simp only [emitted]⟩
    · exact ⟨_, by simp only [emitted]; rfl⟩

end SourceTarget

end Stencil
