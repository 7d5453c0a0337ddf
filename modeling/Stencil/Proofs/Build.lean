import Stencil.Proofs.Pass.Collected
import Stencil.Proofs.Pass.Files
import Stencil.Proofs.Script.Moves

/-! Builds: passes over files as a whole, from the disk that they find to the one that they leave.
-/

namespace Stencil

/-- A pass over files: where its files go and how its sources look, how its script sees files and
what the script does, and the disk, the diagnostics and the memory at its start. -/
structure Build (μ : Type) where
  settings : FileSettings
  style : SourceStyle
  look : Path → FileState → Option ByteArray
  script : Script μ
  disk : Disk
  diagnostics : List Diagnostic
  memory : μ

namespace Build

variable {μ : Type}

/-- What stays fixed during a build. -/
def setup (build : Build μ) : Setup FileState := ⟨build.settings.sink, build.style, build.look⟩

/-- The pass at its start. -/
def start (build : Build μ) : Pass FileState μ :=
  .start (.start build.disk) build.diagnostics build.memory

/-- The moves that the script makes. -/
def moves (build : Build μ) : List (Move μ) := build.script.moves build.setup build.start

/-- The pass after some moves. -/
def after (build : Build μ) (moves : List (Move μ)) : Pass FileState μ :=
  Move.play build.setup moves build.start

/-- The pass that the script leaves, before it is closed. -/
def closing (build : Build μ) : Pass FileState μ := (build.script.run build.setup build.start).2

/-- The pass at its end. -/
def last (build : Build μ) : Pass FileState μ := (Pass.finalize build.setup build.closing).2

/-- The pass is closed with success. -/
def Closes (build : Build μ) : Prop := (Pass.finalize build.setup build.closing).1.isOk = true

instance (build : Build μ) : Decidable build.Closes := inferInstanceAs (Decidable (_ = _))

/-- The path of the service file of an interface. -/
def manifestPath (build : Build μ) (interface : String) : Path :=
  build.settings.servicePath (Pass.serviceKey interface)

/-- The lines of all texts that the script contributes to an interface, in order. -/
def contributed (build : Build μ) (interface : String) : List String :=
  Move.contributed interface build.moves

/-- The script leaves the pass to which its moves lead. -/
theorem closing_eq (build : Build μ) : build.closing = build.after build.moves :=
  Script.run_moves build.setup build.script build.start

/-- A pass that is closed with success answers with artifacts, and is left at its end. -/
theorem Closes.answer {build : Build μ} (closes : build.Closes) :
    ∃ artifacts, Pass.finalize build.setup build.closing = (.ok artifacts, build.last) := by
  -- Closing that fails would contradict the assumption.
  rcases done : Pass.finalize build.setup build.closing with ⟨failure | artifacts, last⟩
  · rw [Closes, done] at closes
    cases closes
  · exact ⟨artifacts, by rw [Build.last, done]⟩

/-- A pass that can be closed has collected everything that its script contributed. -/
theorem Closes.collected {build : Build μ} (closes : build.Closes) :
    Pass.Collected build.moves build.closing := by
  obtain ⟨artifacts, done⟩ := closes.answer
  generalize build.last = last at done
  -- A pass that its script has closed refuses to be closed again.
  have opened : build.closing.finalized = false := by
    cases Pass.closing_of_finalize done with
    | closed opened => exact opened
  rw [closing_eq] at opened ⊢
  exact Pass.collected_play opened

end Build

end Stencil
