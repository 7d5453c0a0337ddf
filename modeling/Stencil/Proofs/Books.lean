import Stencil.Generation
import Stencil.Proofs.Build
import Stencil.Proofs.Pass.Balance

/-! The books of a build: at every point of it, what was reported, committed, created and written
agrees. -/

namespace Stencil

namespace Build

variable {μ : Type}

/-- The errors for which a row of moves is to blame: collided artifacts, settlings that found their
source committed, and errors that were reported by calls. -/
def faults (build : Build μ) (moves : List (Move μ)) : Nat :=
  (build.after moves).artifacts.countP Artifact.collided +
    Move.repetitions build.setup moves build.start + moves.countP Move.isError

/-- The paths of the artifacts whose files a row of moves has written. -/
def placed (build : Build μ) (moves : List (Move μ)) : List Path :=
  (build.after moves).placed build.settings build.style.suffix

/-- The books of a build after some moves: no path was written twice, and each counts as created;
every warning stands for a regenerated artifact, and every error for a fault; no artifact is
regenerated and collided; all others have paths of their own, which were written, and no more was
written if no move failed. -/
structure Books (build : Build μ) (moves : List (Move μ)) : Prop where
  distinct : (build.after moves).outlet.state.written.Nodup
  created : ∀ path ∈ (build.after moves).outlet.state.written,
    path ∈ (build.after moves).outlet.state.created
  warned : (build.after moves).warnings = (build.after moves).artifacts.countP Artifact.regenerated
  erred : (build.after moves).errors = build.faults moves
  failed : ∀ result : GenerationResult,
    result.diagnostics = (build.after moves).outlet.diagnostics →
      (result.failed = true ↔ 0 < build.faults moves)
  exclusive : ∀ artifact ∈ (build.after moves).artifacts,
    ¬(artifact.regenerated = true ∧ artifact.collided = true)
  apart : (build.placed moves).Nodup
  listed : ∀ path ∈ build.placed moves, path ∈ (build.after moves).outlet.state.written
  exact : Move.Smooth build.setup moves build.start →
    (build.placed moves).Perm (build.after moves).outlet.state.written

/-- If nothing was reported before a build, its books are in balance after any row of moves, such as
those that its script makes up to any point, whether they fail or not. The script makes its moves
one after the other, and closing the pass is one more. -/
theorem books_balance (build : Build μ) (clear : build.diagnostics = []) :
    (∀ moves, build.Books moves) ∧ build.closing = build.after build.moves ∧
      build.last = build.after (build.moves ++ [.finalize]) := by
  refine ⟨fun moves => ?_, build.closing_eq, ?_⟩
  -- The books of a pass that has not begun are empty, and every move keeps them in balance.
  · have begun : Pass.Balanced build.settings build.style.suffix 0 [] build.start := by
      rw [start, clear]
      exact Pass.balanced_start build.settings build.style.suffix build.disk build.memory
    have files : build.setup.sink = build.settings.sink := rfl
    obtain ⟨strays, balanced, stays⟩ := begun.play files moves
    have erred : (build.after moves).errors = build.faults moves := by
      have sum := balanced.erred
      rw [Nat.zero_add, ← Nat.add_assoc] at sum
      exact sum
    refine ⟨balanced.distinct, balanced.created, balanced.warned, erred, ?_, balanced.exclusive, ?_,
      ?_, ?_⟩
    -- A result fails if its diagnostics hold an error, whatever its artifacts are.
    · intro result same
      rw [GenerationResult.failed, hasErrors, same, decide_eq_true_iff, ← erred]
      rfl
    -- Fresh artifacts are placed at some of the written paths.
    · have all := balanced.placed.nodup_iff.2 balanced.distinct
      exact (List.nodup_append.1 all).1
    · exact fun path member => balanced.placed.mem_iff.1 (List.mem_append_left _ member)
    -- Without a failure no path strays, so that the fresh artifacts account for all of them.
    · intro smooth
      have placed := balanced.placed
      rw [stays smooth, List.append_nil, List.append_nil] at placed
      exact placed
  -- Closing the pass is the last of its moves.
  · rw [last, closing_eq, after, after, Move.play_concat, Move.run_finalize]

/-- The disk of an earlier build, with two sources. -/
def earlierSources : Disk :=
  ((Disk.fresh.writeFile (.ofString "src/same.py") "s\n".toUTF8).2.writeFile
    (.ofString "src/other.py") "o\n".toUTF8).2

/-- A build in which a source is regenerated, one collides, one is settled once more, one cannot be
written, and an error is reported. -/
def mixed : Build Unit where
  settings := ⟨.ofString "src", .ofString "res", true, .ascii⟩
  style := ⟨".py", Layout.normalizer⟩
  look := fun _ _ => none
  script := .recover
    (.source "" "same" (fun _ => .done "s") (.source "" "other" (fun _ => .done "x")
      (.source "" "new" (fun _ => .source "" "new" (fun _ => .done "in") (.done "out"))
        (.service "I" (fun _ => .done "a") (.source "" "bad" (fun _ => .done "é") (.done ""))))))
    fun _ => .error "e" (.done "")
  disk := earlierSources
  diagnostics := []
  memory := ()

/-- The books of the mixed build are in balance when it is closed: three errors stand for a
collision, a repetition and a call, and one warning for a source that was regenerated. -/
theorem mixed_books_balance :
    mixed.diagnostics = [] ∧ mixed.Books (mixed.moves ++ [.finalize]) ∧ mixed.last.errors = 3 ∧
      mixed.last.warnings = 1 :=
  ⟨rfl, (books_balance mixed rfl).1 _, by decide +kernel, by decide +kernel⟩

end Build

end Stencil
