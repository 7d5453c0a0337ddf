import Stencil.Proofs.Pass.Promised
import Stencil.Proofs.Script.Moves

/-! Success means that the disk is right: if no call fails, the pass is closed, and no error is
reported, then every source that a script wrote stands in its file. -/

namespace Stencil

variable {μ : Type}

/-- What is known of a script that went smoothly, without an error, up to the close of its pass. -/
structure Succeeded (settings : FileSettings) (suffix : String) (rewrite : String → String)
    (moves : List (Move μ)) (start closing last : Pass FileState μ) : Prop where
  unclosed : .finalize ∉ moves
  quiet : closing.errors = start.errors
  promised : Pass.Promised settings suffix rewrite moves closing
  delivered : Pass.Delivered settings closing.services.keys closing last

variable {settings : FileSettings} {suffix : String} {rewrite : String → String}
  {look : Path → FileState → Option ByteArray}

/-- A smooth row of regular moves without an error, after which a pass is closed, keeps its
promises, and the close delivers the services. -/
theorem succeeded_of_smooth (utf8 : settings.encoding = .utf8)
    (sources : settings.sourceRoot.anchor = .relative)
    (classes : settings.classRoot.anchor = .relative) {moves : List (Move μ)}
    {start closing : Pass FileState μ}
    (begun : Pass.Promised settings suffix rewrite [] start)
    (regular : ∀ move ∈ moves, move.Regular settings suffix)
    (smooth : Move.Smooth (settings.setup suffix rewrite look) moves start)
    (played : closing = Move.play (settings.setup suffix rewrite look) moves start)
    (closed : (Pass.finalize (settings.setup suffix rewrite look) closing).1.isOk = true)
    (quiet : (Pass.finalize (settings.setup suffix rewrite look) closing).2.errors = start.errors) :
    Succeeded settings suffix rewrite moves start closing
      (Pass.finalize (settings.setup suffix rewrite look) closing).2 := by
  rcases done : Pass.finalize (settings.setup suffix rewrite look) closing with
    ⟨failure | artifacts, last⟩
  · rw [done] at closed
    cases closed
  rw [done] at quiet
  -- Closing succeeds only on a pass that is open, so no move has closed it.
  have opened : closing.finalized = false := by
    cases Pass.closing_of_finalize done with
    | closed opened => exact opened
  have unclosed : .finalize ∉ moves := Move.finalize_not_mem (played ▸ opened)
  -- The errors at the end are at least those before the close, and at most those at the start.
  have before := Move.errors_le_play (settings.setup suffix rewrite look) moves start
  have after := (Move.frame_finalize (settings.setup suffix rewrite look)
    closing).diagnostics.sublist.countP_le (p := fun diagnostic => diagnostic.severity == .error)
  rw [done] at after
  have same : closing.errors = start.errors :=
    Nat.le_antisymm (Nat.le_trans after (Nat.le_of_eq quiet)) (played ▸ before)
  -- Every move went smoothly and quietly, so each kept its promise.
  have promised := Pass.promised_play utf8 sources classes begun regular unclosed smooth
    (Move.along_quiet (played ▸ same))
  rw [← played] at promised
  -- Each service was requested by a move that keeps to the rules for paths.
  have plain : ∀ key ∈ closing.services.keys, (settings.servicePath key).Plain := by
    intro key member
    obtain ⟨_, _, plain⟩ := promised.services key member
    exact plain
  obtain ⟨_, _, _, _, delivered⟩ := Pass.finalize_delivered rfl utf8 plain done
  exact ⟨unclosed, same, promised, delivered⟩

/-- A source that was settled has its text in its file when the pass is closed. -/
theorem Succeeded.held {moves : List (Move μ)} {start closing last : Pass FileState μ}
    (succeeded : Succeeded settings suffix rewrite moves start closing last) {key : TargetKey}
    {text : String} (settled : .settleSource key text ∈ moves) :
    last.outlet.state.disk.readFile (settings.sourcePath suffix key) =
      .ok (rewrite text).toUTF8 := by
  -- Its path counts as created, while services are delivered to new paths alone.
  have known := succeeded.promised.known settled
  refine succeeded.delivered.spared (succeeded.promised.plain _ known) ?_
    (succeeded.promised.held settled)
  intro member
  obtain ⟨service, inside, same⟩ := List.mem_map.1 member
  exact succeeded.delivered.new service inside (same ▸ known)

namespace Script

/-- If no call of a script fails, its pass is closed with success, and no error is reported, then
for every source call the file of its key holds the bytes of the formatted text of its body,
whatever the disk held before and even if both roots are the same. -/
theorem success_holds_every_source (settings : FileSettings) (suffix : String)
    (rewrite : String → String) (look : Path → FileState → Option ByteArray) (script : Script μ)
    (disk : Disk) (diagnostics : List Diagnostic) (memory : μ) :
    let setup := settings.setup suffix rewrite look
    let start : Pass FileState μ := .start (.start disk) diagnostics memory
    let moves := script.moves setup start
    let closing := (script.run setup start).2
    let last := (Pass.finalize setup closing).2
    settings.encoding = .utf8 → settings.sourceRoot.anchor = .relative →
      settings.classRoot.anchor = .relative →
      (∀ move ∈ moves, move.Regular settings suffix) → Move.Smooth setup moves start →
      (Pass.finalize setup closing).1.isOk = true → last.errors = start.errors →
      ∀ key text, .settleSource key text ∈ moves →
        last.outlet.state.disk.readFile
          (settings.resolve .sources key.package (key.name ++ suffix)) =
            .ok (rewrite text).toUTF8 := by
  intro setup start moves closing last utf8 sources classes regular smooth closed quiet key text
    settled
  have played := run_moves setup script start
  exact (succeeded_of_smooth utf8 sources classes (Pass.promised_start disk diagnostics memory)
    regular smooth played closed quiet).held settled

/-- Sources and services under one root, over the files of earlier builds. -/
def sharedRoot : FileSettings := ⟨.ofString "out", .ofString "out", true, .utf8⟩

/-- A body that writes another source and a service, and a second key whose file is the same. -/
def nestedSources : Script Unit :=
  .source "a" "m" (fun _ => .source "b" "n" (fun _ => .done "inner")
    (.service "I" (fun _ => .done "line") (.done "outer")))
    (.source "" "a/m" (fun _ => .done "outer") (.done ""))

/-- The source inside of a body has its text in its file. -/
theorem nested_source_held :
    let setup := sharedRoot.setup ".py" (· ++ "\n") fun _ _ => none
    let start : Pass FileState Unit := .start (.start .fresh) [] ()
    .settleSource ⟨"b", "n"⟩ "inner" ∈ nestedSources.moves setup start ∧
      (Pass.finalize setup (nestedSources.run setup start).2).2.outlet.state.disk.readFile
        (sharedRoot.resolve .sources "b" ("n" ++ ".py")) = .ok ("inner" ++ "\n").toUTF8 := by
  have settled : .settleSource ⟨"b", "n"⟩ "inner" ∈ nestedSources.moves
      (sharedRoot.setup ".py" (· ++ "\n") fun _ _ => none) (.start (.start .fresh) [] ()) := by
    decide +kernel
  -- What is left are the conditions on the moves and on the close.
  refine ⟨settled, success_holds_every_source sharedRoot ".py" (· ++ "\n") (fun _ _ => none)
    nestedSources .fresh [] () rfl rfl rfl ?_ ?_ ?_ ?_ ⟨"b", "n"⟩ "inner" settled⟩
  all_goals decide +kernel

end Script

end Stencil
