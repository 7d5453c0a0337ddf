import Stencil.Proofs.Sink.Streams
import Stencil.Target.Service

/-! Laws of service targets on any sink: what is read and written when one is committed, and that
committing it reports nothing and keeps its lines. -/

namespace Stencil

namespace ServiceTarget

open Attempt

variable {σ : Type}

/-- Diagnostics that stay as they are. -/
def Silent (before after : Outlet σ) : Prop := after.diagnostics = before.diagnostics

/-- Committing a service reports nothing, whether it succeeds or not. -/
theorem complete_silent (sink : Sink σ) (key : TargetKey) (target : ServiceTarget) :
    Within Silent (target.complete sink key) := by
  -- It reads, writes and logs, and none of the three reports.
  have trans : ∀ first second third : Outlet σ, Silent first second → Silent second third →
      Silent first third := fun _ _ _ left right => Eq.trans right left
  have noted : ∀ entry, Within Silent (Outlet.note entry : Attempt (Outlet σ) Unit) :=
    fun _ _ => rfl
  have entries : Within Silent (existingEntries sink key) := by
    refine Within.bind trans (fun outlet => sink.readFrom_diagnostics _ _ _ outlet) ?_
    intro answer
    cases answer with
    | error failure => exact Within.bind trans (noted _) fun _ _ => rfl
    | ok existing => exact fun _ => rfl
  have emitted : ∀ list, Within Silent (emit sink key list) := by
    intro list
    refine Within.bind trans (fun outlet => sink.writeTo_diagnostics _ _ _ _ outlet) ?_
    intro answer
    cases answer with
    | error failure =>
      simp only
      split <;> exact fun _ => rfl
    | ok _ => exact fun _ => rfl
  -- A target that is committed already is refused without a word.
  unfold complete
  simp only
  split
  · exact fun _ => rfl
  · refine Within.bind trans entries fun list => ?_
    refine Within.bind trans (emitted _) fun _ => ?_
    exact Within.bind trans (noted _) fun _ _ => rfl

/-- The entries that are kept are those of the text that is read; where none can be read, the text
counts as empty. -/
theorem existingEntries_apply (sink : Sink σ) (key : TargetKey) (outlet : Outlet σ) :
    ∃ log, existingEntries sink key outlet =
      (.ok (Manifest.kept
        ((sink.readFrom .classes key.package key.name outlet).1.toOption.getD "")),
        ⟨(sink.readFrom .classes key.package key.name outlet).2.state,
          (sink.readFrom .classes key.package key.name outlet).2.diagnostics, log⟩) := by
  unfold existingEntries
  rw [bind_apply, outcome_apply]
  rcases sink.readFrom .classes key.package key.name outlet with ⟨failure | text, after⟩
  -- What cannot be read is logged, and counts as empty.
  · exact ⟨_, rfl⟩
  · exact ⟨after.log, rfl⟩

/-- Entries are emitted exactly if they are written. -/
theorem emit_eq_ok {sink : Sink σ} {key : TargetKey} {entries : List String}
    {outlet after : Outlet σ} :
    emit sink key entries outlet = (.ok (), after) ↔
      sink.writeTo .classes key.package key.name (entries.map Manifest.line) outlet =
        (.ok (), after) := by
  unfold emit
  rw [bind_apply, outcome_apply]
  generalize sink.writeTo .classes key.package key.name (entries.map Manifest.line) outlet = answer
  obtain ⟨failure | _, later⟩ := answer
  -- A failure of writing is one of emitting, whichever is shown.
  · simp only
    split <;> exact ⟨nofun, nofun⟩
  · exact Iff.rfl

/-- What a service is committed as. -/
def committedAs (key : TargetKey) : Artifact := ⟨key, .service, false, false⟩

/-- A service that is committed keeps its lines. -/
theorem complete_eq_ok {sink : Sink σ} {key : TargetKey} {target last : ServiceTarget}
    {outlet after : Outlet σ} (done : target.complete sink key outlet = (.ok last, after)) :
    last = ⟨target.lines, some (committedAs key)⟩ := by
  unfold complete at done
  cases completed : target.completed with
  | true =>
    -- A service that is committed is not committed again.
    simp only [completed, if_true] at done
    cases done
  | false =>
    -- Reading, writing and logging come first, and the answer does not depend on them.
    simp only [completed, Bool.false_eq_true, if_false] at done
    obtain ⟨earlier, _, _, rest⟩ := bind_eq_ok.1 done
    obtain ⟨_, _, _, rest⟩ := bind_eq_ok.1 rest
    obtain ⟨_, _, _, rest⟩ := bind_eq_ok.1 rest
    cases rest
    rfl

end ServiceTarget

end Stencil
