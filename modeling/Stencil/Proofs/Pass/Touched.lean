import Stencil.Proofs.Pass.Files
import Stencil.Proofs.Script.Alike
import Stencil.Proofs.Sink.Openings

/-! What the moves of a pass that stays open reach: they touch the files of the sources that they
settle, and they open no destination but those of sources. -/

namespace Stencil

/-- A file that is not touched is the same before and after, or missing on both sides. -/
theorem Disk.Keeps.fileAt?_eq {touched : Location → Prop} {before after : Disk}
    (kept : Keeps touched before after) {place : Location} (spared : ¬touched place) :
    after.fileAt? place = before.fileAt? place := by
  -- Neither side has a file that the other one lacks.
  cases held : before.fileAt? place with
  | some content => exact kept.files held spared
  | none =>
    cases later : after.fileAt? place with
    | none => rfl
    | some content => exact absurd (kept.earlier later spared) (by simp [held])

namespace Move

open Attempt

variable {μ : Type}

section Files

variable {settings : FileSettings} {setup : Setup FileState}

/-- The places to which the paths of settled sources lead on a disk. -/
def Reaches (settings : FileSettings) (suffix : String) (moves : List (Move μ)) (disk : Disk)
    (place : Location) : Prop :=
  ∃ key text, .settleSource key text ∈ moves ∧ disk.find (settings.sourcePath suffix key) = .ok place

/-- A move that does not close the pass touches at most the file of the source that it settles. -/
theorem run_touches (files : setup.sink = settings.sink) {move : Move μ} (unclosed : move ≠ .finalize)
    (pass : Pass FileState μ) :
    Disk.Keeps (Reaches settings setup.style.suffix [move]
        (move.run setup pass).2.outlet.state.disk)
      pass.outlet.state.disk (move.run setup pass).2.outlet.state.disk := by
  by_cases settles : ∃ key text, move = .settleSource key text
  · obtain ⟨key, text, rfl⟩ := settles
    -- Settling writes to the path of the source, if it writes at all.
    have wrote := Pass.settleSource_wrote files key text pass
    show Disk.Keeps (Reaches _ _ _ (Pass.settleSource setup key text pass).2.outlet.state.disk) _
      (Pass.settleSource setup key text pass).2.outlet.state.disk
    rcases wrote with same | ⟨shown, outcome, writing⟩
    · rw [same]
      exact .refl _ _
    · exact writing.keeps.weaken fun place touched =>
        ⟨key, text, List.mem_singleton_self _, touched.found⟩
  -- No other move changes the disk.
  · rw [run_state setup pass (fun key text same => settles ⟨key, text, same⟩) unclosed]
    exact .refl _ _

/-- Moves that do not close the pass touch at most the files of the sources that they settle. -/
theorem play_touches (files : setup.sink = settings.sink) {moves : List (Move μ)}
    (unclosed : .finalize ∉ moves) (pass : Pass FileState μ) :
    Disk.Keeps (Reaches settings setup.style.suffix moves
        (play setup moves pass).outlet.state.disk)
      pass.outlet.state.disk (play setup moves pass).outlet.state.disk := by
  induction moves generalizing pass with
  | nil => exact .refl _ _
  | cons move rest ih =>
    simp only [List.mem_cons, not_or] at unclosed
    have first := run_touches files (Ne.symm unclosed.1) pass
    have later := ih unclosed.2 (move.run setup pass).2
    -- Where a path leads once, it leads to the end.
    refine (first.weaken ?_).trans (later.weaken ?_)
    · rintro place ⟨key, text, member, found⟩
      exact ⟨key, text, by simpa using Or.inl (List.mem_singleton.1 member), later.find found⟩
    · rintro place ⟨key, text, member, found⟩
      exact ⟨key, text, List.mem_cons_of_mem _ member, found⟩

end Files

end Move

section Watched

open Attempt

variable {σ μ α : Type} {place : Place}

/-- A watched sink that was asked for destinations at one place only is asked for no other ones. -/
def Outlet.StaysAt (place : Place) (before after : Outlet (Watched σ)) : Prop :=
  (∀ event ∈ before.openings, event.Only place) → ∀ event ∈ after.openings, event.Only place

/-- What opens destinations at one place only stays at this place. -/
theorem Lengthens.staysAt {added : List SinkEvent} {attempt : Attempt (Outlet (Watched σ)) α}
    (here : Lengthens Outlet.openings added attempt) (only : ∀ event ∈ added, event.Only place) :
    Within (Outlet.StaysAt place) attempt := by
  intro outlet earlier event member
  rw [here outlet, List.mem_append] at member
  exact member.elim (earlier event) (only event)

/-- Two steps that stay at a place stay there together. -/
theorem Outlet.StaysAt.trans (first second third : Outlet (Watched σ))
    (left : StaysAt place first second) (right : StaysAt place second third) :
    StaysAt place first third := right ∘ left

/-- Writing a source asks for destinations of sources only, whatever it comes to. -/
theorem SourceTarget.emit_staysAt (sink : Sink σ) (key : TargetKey) (fileName text : String) :
    Within (Outlet.StaysAt .sources) (emit sink.watched key fileName text) := by
  have settles : ∀ reason, Within (Outlet.StaysAt .sources)
      (settle sink.watched key fileName text reason) := by
    intro reason
    have reports : ∀ severity message, Within (Outlet.StaysAt .sources)
        (Outlet.report severity message : Attempt (Outlet (Watched σ)) Unit) := fun _ _ _ => id
    have holds : Within (Outlet.StaysAt .sources)
        (holdsAlready sink.watched key fileName text) := by
      refine Within.bind Outlet.StaysAt.trans ((sink.readFrom_lengthens .sources ""
        (key.packagePath ++ fileName)).outcome.staysAt (by simp [SinkEvent.Only])) fun answer => ?_
      -- What is there already is compared, or noted as unreadable.
      cases answer with
      | ok existing => exact fun _ => id
      | error failure =>
        exact Within.bind Outlet.StaysAt.trans ((Outlet.note_lengthens _).staysAt (by simp))
          fun _ _ => id
    refine holds.bind Outlet.StaysAt.trans fun same => ?_
    cases same with
    | true => exact Within.bind Outlet.StaysAt.trans (reports _ _) fun _ _ => id
    | false => exact Within.bind Outlet.StaysAt.trans (reports _ _) fun _ _ => id
  -- The destination is asked for once more if it counts as created.
  refine Within.bind Outlet.StaysAt.trans ((sink.writeTo_lengthens .sources key.package fileName
    [text]).outcome.staysAt (by simp [SinkEvent.Only])) fun answer => ?_
  cases answer with
  | ok _ => exact fun _ => id
  | error failure =>
    simp only
    split
    · exact settles failure
    · split <;> exact fun _ => id

/-- A pass whose watched sink was asked for destinations at one place only asks for no other
ones. -/
def Pass.StaysAt (place : Place) (before after : Pass (Watched σ) μ) : Prop :=
  Outlet.StaysAt place before.outlet after.outlet

/-- A pass stays where it is. -/
theorem Pass.StaysAt.refl (place : Place) (pass : Pass (Watched σ) μ) : StaysAt place pass pass := id

/-- Two steps of a pass that stay at a place stay there together. -/
theorem Pass.StaysAt.trans (first second third : Pass (Watched σ) μ)
    (left : StaysAt place first second) (right : StaysAt place second third) :
    StaysAt place first third := right ∘ left

/-- A move that does not close the pass asks for destinations of sources only. -/
theorem Move.run_staysAt (setup : Setup σ) {move : Move μ} (unclosed : move ≠ .finalize) :
    Within (Pass.StaysAt .sources) (move.run setup.watched) := by
  intro pass
  by_cases settles : ∃ key text, move = .settleSource key text
  · obtain ⟨key, text, rfl⟩ := settles
    have stays : ∀ shown, Outlet.StaysAt .sources pass.outlet (SourceTarget.emit
        setup.watched.sink key (key.name ++ setup.watched.style.suffix) shown pass.outlet).2 :=
      fun shown => SourceTarget.emit_staysAt setup.sink key _ shown pass.outlet
    have settling := Pass.settleSource_settling setup.watched key text pass
    show Pass.StaysAt .sources pass (Pass.settleSource setup.watched key text pass).2
    generalize Pass.settleSource setup.watched key text pass = answer at settling ⊢
    obtain ⟨result, after⟩ := answer
    -- A sink is asked for nothing unless a text is written.
    cases settling with
    | repeated | unformatted => exact id
    | @committed shown _ _ _ _ _ emitted =>
      have here := stays shown
      rw [emitted] at here
      exact here
    | @failed shown _ _ _ _ emitted =>
      have here := stays shown
      rw [emitted] at here
      exact here
  -- All other moves leave the sink alone.
  · have same := run_state setup.watched pass (fun key text equal => settles ⟨key, text, equal⟩)
      unclosed
    unfold Pass.StaysAt Outlet.StaysAt Outlet.openings
    rw [same]
    exact id

end Watched

end Stencil
