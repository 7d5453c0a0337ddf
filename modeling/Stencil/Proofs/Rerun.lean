import Stencil.Proofs.Pass.Rerun
import Stencil.Proofs.Success

/-! A clean build that is run again incrementally is quiet: it finds every source in its file, and
neither writes one nor reports an error. -/

namespace Stencil

variable {μ : Type} {settings : FileSettings} {suffix : String} {rewrite : String → String}
  {look : Path → FileState → Option ByteArray}

/-- The same files, where those of earlier builds count as created. -/
def FileSettings.again (settings : FileSettings) : FileSettings :=
  { settings with incremental := true }

/-- Warnings of artifacts that are regenerated are no errors. -/
theorem SourceTarget.errors_regenerated {reported : List Diagnostic} {artifacts : List Artifact}
    (warned : reported.Perm (artifacts.map fun artifact => regeneratedDiagnostic artifact.key)) :
    countSeverity .error reported = 0 := by
  -- The order of the warnings does not matter for their number.
  rw [countSeverity, warned.countP_eq, List.countP_eq_zero]
  intro diagnostic member
  obtain ⟨artifact, _, rfl⟩ := List.mem_map.1 member
  simp [regeneratedDiagnostic]

namespace Succeeded

variable {moves : List (Move μ)} {start closing last : Pass FileState μ}

/-- The moves of a script that went smoothly without an error can be made again over the files that
it left. -/
theorem repeatable (succeeded : Succeeded settings suffix rewrite moves start closing last)
    (utf8 : settings.encoding = .utf8) (sources : settings.sourceRoot.anchor = .relative)
    (classes : settings.classRoot.anchor = .relative)
    (begun : Pass.Promised settings suffix rewrite [] start)
    (regular : ∀ move ∈ moves, move.Regular settings suffix)
    (smooth : Move.Smooth (settings.setup suffix rewrite look) moves start)
    (played : closing = Move.play (settings.setup suffix rewrite look) moves start)
    {earlier later : List (Move μ)} {move : Move μ} (split : moves = earlier ++ move :: later) :
    move.Repeatable settings.again suffix rewrite last.outlet.state.disk earlier := by
  -- The move went smoothly and quietly where it stands, after moves that did so as well.
  have member : move ∈ moves := by simp [split]
  have silent := Move.along_quiet (played ▸ succeeded.quiet)
  have apart : ∀ other ∈ earlier, other ≠ .finalize := fun other inside same =>
    succeeded.unclosed (split ▸ List.mem_append_left _ (same ▸ inside))
  rw [split, Move.along_append] at silent
  rw [split, Move.Smooth, Move.along_append] at smooth
  have promised := Pass.promised_play utf8 sources classes begun
    (fun other inside => regular other (split ▸ List.mem_append_left _ inside))
    (fun inside => apart _ inside rfl) smooth.1 silent.1
  have succeeds := Move.isOk_iff.1 smooth.2.1
  have quiet := silent.2.1
  cases move with
  | settleSource key text =>
    -- A settling that is quiet is the first of its key, and its text is still in its file.
    have settling := Pass.settleSource_settling (settings.setup suffix rewrite look) key text
      (Move.play (settings.setup suffix rewrite look) earlier start)
    rw [show (Pass.settleSource (settings.setup suffix rewrite look) key text _).1 = .ok ()
      from succeeds] at settling
    have regularKey : RegularSource settings suffix key := regular _ member
    have first := promised.settle utf8 sources regularKey settling quiet
      (promised.settled.step fun _ _ same => by cases same; exact succeeds)
    exact ⟨first.1, ⟨regularKey.package, regularKey.relative, regularKey.down⟩,
      succeeded.held member⟩
  -- A move that failed was not smooth, and a reported error was not quiet.
  | dropSource key failure => cases succeeds
  | dropService interface failure => cases succeeds
  | error message =>
    rw [Move.errors_error] at quiet
    omega
  | finalize => exact absurd member succeeded.unclosed
  | requestSource | requestService | contribute | system | remember => trivial

/-- After the moves were made again, the services can be delivered once more. -/
theorem deliverable (succeeded : Succeeded settings suffix rewrite moves start closing last)
    {diagnostics : List Diagnostic} {pass : Pass FileState μ}
    (rerun : Pass.Rerun settings.again suffix last.outlet.state.disk diagnostics moves pass)
    (keys : pass.services.keys = closing.services.keys) :
    Pass.Deliverable settings.again pass.services.keys pass := by
  -- The first pass delivered them, and the second one has only found sources so far.
  rw [keys]
  refine ⟨?_, ?_, ?_, ?_, succeeded.delivered.distinct, fun key _ => rerun.uncompleted key⟩
  · intro key member
    obtain ⟨interface, rfl, plain⟩ := succeeded.promised.services key member
    exact plain
  · intro key member
    obtain ⟨interface, rfl, _⟩ := succeeded.promised.services key member
    exact settings.again.servicePath_below interface
  · rw [rerun.disk]
    exact succeeded.delivered.filled
  · intro key member known
    -- What counts as created is the path of a source, which no service shares.
    obtain ⟨source, text, settled, same⟩ := rerun.created _ known
    have created := succeeded.promised.known settled
    rw [show settings.sourcePath suffix source = settings.servicePath key from same.symm] at created
    exact succeeded.delivered.new key member created

end Succeeded

/-- A pass that ran the same moves again over the files of an earlier one: no error, one warning for
each artifact of a source, and no source file written or changed. -/
structure CleanRerun (settings : FileSettings) (suffix : String) (moves : List (Move μ))
    (files : Disk) (diagnostics : List Diagnostic) (last : Pass FileState μ) : Prop where
  quiet : last.errors = countSeverity .error diagnostics
  warned : ∃ added, last.outlet.diagnostics = diagnostics ++ added ∧
    added.Perm (last.sourceArtifacts.map fun artifact =>
      SourceTarget.regeneratedDiagnostic artifact.key)
  regenerated : ∀ artifact ∈ last.sourceArtifacts,
    artifact.regenerated = true ∧ artifact.collided = false
  committed : ∀ {key text}, .settleSource key text ∈ moves →
    ∃ artifact ∈ last.sourceArtifacts, last.sourceAt key = ⟨text, some artifact⟩
  unwritten : ∀ {key text}, .settleSource key text ∈ moves →
    settings.sourcePath suffix key ∉ last.outlet.state.written
  unchanged : ∀ {key text}, .settleSource key text ∈ moves →
    last.outlet.state.disk.readFile (settings.sourcePath suffix key) =
      files.readFile (settings.sourcePath suffix key)

namespace Succeeded

variable {moves : List (Move μ)} {start closing last : Pass FileState μ}

/-- A pass that made the moves again can be closed again, and is clean then. -/
theorem cleanRerun (succeeded : Succeeded settings suffix rewrite moves start closing last)
    (utf8 : settings.encoding = .utf8)
    (repeatable : ∀ {earlier move later}, moves = earlier ++ move :: later →
      move.Repeatable settings.again suffix rewrite last.outlet.state.disk earlier)
    {diagnostics : List Diagnostic} {pass : Pass FileState μ}
    (rerun : Pass.Rerun settings.again suffix last.outlet.state.disk diagnostics moves pass)
    (keys : pass.services.keys = closing.services.keys) :
    (Pass.finalize (settings.again.setup suffix rewrite look) pass).1.isOk = true ∧
      CleanRerun settings suffix moves last.outlet.state.disk diagnostics
        (Pass.finalize (settings.again.setup suffix rewrite look) pass).2 := by
  have ready := succeeded.deliverable rerun keys
  obtain ⟨artifacts, final, done⟩ := @Pass.finalize_again μ settings.again
    (settings.again.setup suffix rewrite look) rfl utf8 pass rerun.opened ready
  obtain ⟨_, _, kept, reported, delivered⟩ := @Pass.finalize_delivered μ settings.again
    (settings.again.setup suffix rewrite look) rfl utf8 _ _ _ ready.plain done
  rw [done]
  -- Closing the pass leaves the sources and their artifacts alone.
  have same : final.sourceArtifacts = pass.sourceArtifacts := by
    simp only [Pass.sourceArtifacts, kept]
  obtain ⟨added, diagnosed, perm⟩ := rerun.reported
  -- The path of a source was created in the first pass, so it is none of the services.
  have apart : ∀ {key text}, .settleSource key text ∈ moves →
      settings.sourcePath suffix key ∉ pass.services.keys.map settings.again.servicePath := by
    intro key text settled member
    obtain ⟨service, inside, path⟩ := List.mem_map.1 member
    rw [keys] at inside
    exact succeeded.delivered.new service inside (path ▸ succeeded.promised.known settled)
  refine ⟨rfl, ?_, ⟨added, by rw [reported, diagnosed], by rw [same]; exact perm⟩,
    by rw [same]; exact rerun.artifacts, ?_, ?_, ?_⟩
  -- All that was added are warnings.
  · have warnings := SourceTarget.errors_regenerated perm
    show countSeverity .error final.outlet.diagnostics = _
    rw [reported, diagnosed, countSeverity, List.countP_append]
    simp only [countSeverity] at warnings
    rw [warnings]
    rfl
  · intro key text settled
    -- A settled source stands as it was settled first, with its artifact.
    obtain ⟨earlier, later, split⟩ := List.append_of_mem settled
    obtain ⟨never, _⟩ := repeatable split
    have first : Move.firstText? key moves = some text := by
      rw [split, Move.firstText?_append, never]
      simp [Move.firstText?]
    obtain ⟨artifact, stands⟩ := rerun.settled.committed first
    refine ⟨artifact, same ▸ Pass.mem_sourceArtifacts stands, ?_⟩
    rw [← stands, Pass.sourceAt, Pass.sourceAt, kept]
  · intro key text settled
    -- Only services are written in the second pass.
    rw [delivered.written, rerun.written]
    exact apart settled
  · intro key text settled
    -- The file of a source is none that the close has touched.
    rw [succeeded.held settled]
    refine delivered.spared (succeeded.promised.plain _ (succeeded.promised.known settled))
      (apart settled) ?_
    rw [rerun.disk]
    exact succeeded.held settled

end Succeeded

namespace Script

/-- If a script that looks at no file runs without a failed call, its pass is closed with success
and no error is reported, then the same script makes the same moves over the files that this left
and answers the same, its pass is closed with success, and it is clean. -/
theorem rerun_is_clean (settings : FileSettings) (suffix : String) (rewrite : String → String)
    (look : Path → FileState → Option ByteArray) (script : Script μ) (disk : Disk)
    (diagnostics more : List Diagnostic) (memory : μ) :
    let first := settings.setup suffix rewrite look
    let start : Pass FileState μ := .start (.start disk) diagnostics memory
    let moves := script.moves first start
    let closing := (script.run first start).2
    let last := (Pass.finalize first closing).2
    let second := settings.again.setup suffix rewrite look
    let restart : Pass FileState μ := .start (.start last.outlet.state.disk) more memory
    script.Blind → settings.encoding = .utf8 → settings.sourceRoot.anchor = .relative →
      settings.classRoot.anchor = .relative →
      (∀ move ∈ moves, move.Regular settings suffix) → Move.Smooth first moves start →
      (Pass.finalize first closing).1.isOk = true → last.errors = start.errors →
      script.moves second restart = moves ∧ Move.Smooth second moves restart ∧
        (script.run second restart).1 = (script.run first start).1 ∧
        (Pass.finalize second (script.run second restart).2).1.isOk = true ∧
        CleanRerun settings suffix moves last.outlet.state.disk more
          (Pass.finalize second (script.run second restart).2).2 := by
  intro first start moves closing last second restart blind utf8 sources classes regular smooth
    closed quiet
  have played := run_moves first script start
  have begun : Pass.Promised settings suffix rewrite [] start :=
    Pass.promised_start disk diagnostics memory
  have succeeded := succeeded_of_smooth utf8 sources classes begun regular smooth played closed quiet
  have repeatable : ∀ {earlier move later}, moves = earlier ++ move :: later →
      move.Repeatable settings.again suffix rewrite last.outlet.state.disk earlier :=
    fun split => succeeded.repeatable utf8 sources classes begun regular smooth played split
  -- Every move finds what it needs, so all of them succeed once more.
  have step : ∀ earlier (pass : Pass FileState μ) move,
      Pass.Rerun settings.again suffix last.outlet.state.disk more earlier pass →
      move.Repeatable settings.again suffix rewrite last.outlet.state.disk earlier →
      (move.run second pass).1 = .ok () ∧ Pass.Rerun settings.again suffix last.outlet.state.disk
        more (earlier ++ [move]) (move.run second pass).2 :=
    fun _ _ _ kept fits => kept.step utf8 rfl fits
  obtain ⟨again, rerun⟩ := Move.play_progress step
    (Pass.Rerun.start last.outlet.state.disk more memory) fun _ _ _ split => repeatable split
  obtain ⟨same, answer⟩ :=
    @moves_again _ _ _ first second script blind start restart rfl smooth again
  have replayed := run_moves second script restart
  rw [same] at replayed
  rw [← replayed] at rerun
  -- Both passes were asked for the same services.
  have keys : (script.run second restart).2.services.keys = closing.services.keys := by
    rw [replayed, Move.play_serviceKeys again succeeded.unclosed]
    show _ = (script.run first start).2.services.keys
    rw [played, Move.play_serviceKeys smooth succeeded.unclosed]
    rfl
  obtain ⟨finished, clean⟩ := succeeded.cleanRerun utf8 repeatable rerun keys
  exact ⟨same, again, answer, finished, clean⟩

/-- The nested sources are found in their files, each with a warning. -/
theorem nested_sources_rerun :
    let setup := sharedRoot.setup ".py" (· ++ "\n") fun _ _ => none
    let start : Pass FileState Unit := .start (.start .fresh) [] ()
    let last := (Pass.finalize setup (nestedSources.run setup start).2).2
    let restart : Pass FileState Unit := .start (.start last.outlet.state.disk) [] ()
    nestedSources.Blind ∧ nestedSources.moves setup restart = nestedSources.moves setup start ∧
      CleanRerun sharedRoot ".py" (nestedSources.moves setup start) last.outlet.state.disk []
        (Pass.finalize setup (nestedSources.run setup restart).2).2 := by
  have blind : nestedSources.Blind := by simp [nestedSources, Blind]
  have rerun := rerun_is_clean sharedRoot ".py" (· ++ "\n") (fun _ _ => none) nestedSources
    .fresh [] [] () blind rfl rfl rfl
  -- The remaining conditions are evaluated.
  refine ⟨blind, (rerun ?_ ?_ ?_ ?_).1, (rerun ?_ ?_ ?_ ?_).2.2.2.2⟩
  all_goals decide +kernel

end Script

end Stencil
