import Stencil.Proofs.Pass.Settled
import Stencil.Proofs.Target.ServiceFile
import Stencil.Proofs.Target.SourceFile

/-! Passes over files: which operations write, and what each of them writes to. -/

namespace Stencil

/-- The path of a service file. -/
def FileSettings.servicePath (settings : FileSettings) (key : TargetKey) : Path :=
  settings.resolve .classes key.package key.name

namespace Move

variable {σ μ : Type}

/-- Only settling a source and closing the pass change the state of the sink. -/
theorem run_state (setup : Setup σ) {move : Move μ} (pass : Pass σ μ)
    (apart : ∀ key text, move ≠ .settleSource key text) (opened : move ≠ .finalize) :
    (move.run setup pass).2.outlet.state = pass.outlet.state := by
  -- All other moves are about the tables, the diagnostics and the log of the pass.
  cases move with
  -- Whether the pass is closed or not, the request is noted at most.
  | requestSource key =>
    obtain ⟨log, result⟩ := run_requestSource setup pass key
    rw [result]
    split <;> rfl
  | requestService interface =>
    obtain ⟨log, result⟩ := run_requestService setup pass interface
    rw [result]
    split <;> rfl
  | contribute interface text =>
    rw [run, Pass.appendService_apply]
    split <;> rfl
  | settleSource key text => exact absurd rfl (apart key text)
  | finalize => exact absurd rfl opened
  | dropSource | dropService | error | system | remember => rfl

end Move

namespace Pass

open Attempt FileSettings

variable {μ : Type} {settings : FileSettings} {setup : Setup FileState}

/-- Settling a source leaves the state of the sink alone, or changes it by writing a text to the
path of the source. -/
theorem settleSource_wrote (files : setup.sink = settings.sink) (key : TargetKey) (text : String)
    (pass : Pass FileState μ) :
    (settleSource setup key text pass).2.outlet.state = pass.outlet.state ∨
      ∃ shown outcome, Writing settings .sources (settings.sourcePath setup.style.suffix key)
        [shown] pass.outlet.state outcome (settleSource setup key text pass).2.outlet.state := by
  obtain ⟨sink, style, look⟩ := setup
  subst files
  have settling := settleSource_settling ⟨settings.sink, style, look⟩ key text pass
  generalize settleSource ⟨settings.sink, style, look⟩ key text pass = answer at settling ⊢
  obtain ⟨result, after⟩ := answer
  -- A text reaches the sink only after it was formatted.
  cases settling with
  | repeated | unformatted => exact Or.inl rfl
  | committed _ _ emitted => exact Or.inr ⟨_, (SourceTarget.emission_of_emit emitted).wrote⟩
  | failed _ _ emitted => exact Or.inr ⟨_, (SourceTarget.emission_of_emit emitted).wrote⟩

/-- The texts that committing a service writes: a line for each entry of its manifest. -/
def manifestTexts (settings : FileSettings) (key : TargetKey) (pass : Pass FileState μ) :
    List String :=
  let existing := settings.textAt pass.outlet.state.disk (settings.servicePath key)
  (Manifest.merge (Manifest.kept existing) (pass.serviceAt key).lines).map Manifest.line

/-- What committing a service can come to. -/
inductive Committing (settings : FileSettings) (key : TargetKey) (pass : Pass FileState μ) :
    Except Failure Unit → Pass FileState μ → Prop where
  /-- A service is committed only once. -/
  | refused (completed : (pass.serviceAt key).completed = true) :
      Committing settings key pass (.error (.closed (.service key))) pass
  /-- Its manifest could not be written, and the service stays as it was. -/
  | failed {failure shown : Failure} {state : FileState} {log : List LogRecord}
      (uncompleted : (pass.serviceAt key).completed = false)
      (writing : Writing settings .classes (settings.servicePath key)
        (manifestTexts settings key pass) pass.outlet.state (.error failure) state) :
      Committing settings key pass (.error shown)
        { pass with outlet := ⟨state, pass.outlet.diagnostics, log⟩ }
  /-- Its manifest was written, and the service is committed. -/
  | written {state : FileState} {log : List LogRecord}
      (uncompleted : (pass.serviceAt key).completed = false)
      (writing : Writing settings .classes (settings.servicePath key)
        (manifestTexts settings key pass) pass.outlet.state (.ok ()) state) :
      Committing settings key pass (.ok ())
        { pass with
          outlet := ⟨state, pass.outlet.diagnostics, log⟩
          services := pass.services.put key
            { pass.serviceAt key with artifact := some ⟨key, .service, false, false⟩ } }

/-- Committing a service comes to one of the three. -/
theorem completeService_committing (files : setup.sink = settings.sink) (key : TargetKey)
    (pass : Pass FileState μ) :
    Committing settings key pass (completeService setup key pass).1
      (completeService setup key pass).2 := by
  rw [completeService_apply, files]
  cases completed : (pass.serviceAt key).completed with
  | true =>
    -- It is refused before its manifest is looked at.
    have refused : (pass.serviceAt key).complete settings.sink key pass.outlet =
        (.error (.closed (.service key)), pass.outlet) := by
      simp [ServiceTarget.complete, completed, bind_apply]
    rw [refused]
    exact .refused completed
  | false =>
    -- What writing the manifest came to decides.
    obtain ⟨before, note, shown, same⟩ :=
      ServiceTarget.complete_file settings key completed pass.outlet
    obtain ⟨result, state, log, wrote, writing⟩ := writeTo_writing settings .classes key.package
      key.name (manifestTexts settings key pass) { pass.outlet with log := before }
    unfold manifestTexts servicePath at wrote
    rw [wrote] at same
    rw [same]
    cases result with
    | error failure => exact .failed completed writing
    | ok done => exact .written completed writing

/-- Closing a pass that has no services leaves the state of the sink alone. -/
theorem finalize_unserved {pass : Pass FileState μ} (unserved : pass.services.keys = []) :
    (finalize setup pass).2.outlet.state = pass.outlet.state := by
  have closing := finalize_closing setup pass
  generalize finalize setup pass = answer at closing ⊢
  obtain ⟨result, after⟩ := answer
  -- There is nothing to commit.
  cases closing with
  | refused => rfl
  | failed _ committed _ =>
    rw [unserved] at committed
    cases committed
  | closed _ committed _ =>
    rw [unserved] at committed
    cases committed
    rfl

end Pass

end Stencil
