import Stencil.Proofs.Pass.Promised

/-! Running the same moves again over the files that they left: every settling finds its text in its
file, and only the log and the diagnostics tell the passes apart. -/

namespace Stencil

namespace Move

variable {σ μ : Type}

/-- The keys of the requested services after a move. -/
def serviceKeys (keys : List TargetKey) : Move μ → List TargetKey
  | .requestService interface | .contribute interface _ =>
    if Pass.serviceKey interface ∈ keys then keys else keys ++ [Pass.serviceKey interface]
  | _ => keys

/-- A move that succeeds and does not close the pass requests what it says. -/
theorem run_serviceKeys {setup : Setup σ} {move : Move μ} {pass : Pass σ μ}
    (succeeds : (move.run setup pass).1 = .ok ()) (opened : move ≠ .finalize) :
    (move.run setup pass).2.services.keys = move.serviceKeys pass.services.keys := by
  -- Only the moves about services touch their table.
  cases move with
  | requestSource key =>
    obtain ⟨log, result⟩ := run_requestSource setup pass key
    rw [result]
    split <;> rfl
  | settleSource key text =>
    have settling := Pass.settleSource_settling setup key text pass
    show (Pass.settleSource setup key text pass).2.services.keys = pass.services.keys
    generalize Pass.settleSource setup key text pass = answer at settling ⊢
    obtain ⟨outcome, after⟩ := answer
    cases settling <;> rfl
  | requestService interface =>
    obtain ⟨log, result⟩ := run_requestService setup pass interface
    rw [result] at succeeds ⊢
    -- A request that succeeds meets an open pass, and puts a new key last.
    split at succeeds
    · cases succeeds
    · rename_i free
      rw [if_neg free]
      simp only [Pass.requested, serviceKeys, ← Table.contains_iff]
      split
      · rfl
      · rename_i absent
        rw [Table.keys_put, if_neg (by rw [← Table.contains_iff]; exact absent)]
  | contribute interface text =>
    rw [run, Pass.appendService_apply] at succeeds ⊢
    split at succeeds
    · cases succeeds
    · rename_i free
      rw [if_neg free]
      exact Table.keys_put _ _ _
  | finalize => exact absurd rfl opened
  | dropSource | dropService | error | system | remember => rfl

/-- Smooth moves that do not close the pass request what they say, one after the other. -/
theorem play_serviceKeys {setup : Setup σ} {moves : List (Move μ)} {pass : Pass σ μ}
    (smooth : Smooth setup moves pass) (opened : .finalize ∉ moves) :
    (play setup moves pass).services.keys = moves.foldl serviceKeys pass.services.keys := by
  -- What the first move requests is there when the others are made.
  induction moves generalizing pass with
  | nil => rfl
  | cons move rest ih =>
    obtain ⟨succeeds, later⟩ := smooth_cons.1 smooth
    simp only [List.mem_cons, not_or] at opened
    rw [play, ih later opened.2, run_serviceKeys succeeds (Ne.symm opened.1), List.foldl_cons]

/-- Moves that can be made again over a disk: nothing fails, no error is reported, and every
settling is the first one of its key and finds its text in its file. -/
def Repeatable (settings : FileSettings) (suffix : String) (rewrite : String → String) (disk : Disk)
    (earlier : List (Move μ)) : Move μ → Prop
  | .settleSource key text =>
    firstText? key earlier = none ∧ RegularSource settings suffix key ∧
      disk.readFile (settings.sourcePath suffix key) = .ok (rewrite text).toUTF8
  | .dropSource _ _ | .dropService _ _ | .error _ | .finalize => False
  | _ => True

end Move

namespace Pass

open Move

variable {μ : Type}

/-- The artifacts of the sources that are committed. -/
def sourceArtifacts {σ : Type} (pass : Pass σ μ) : List Artifact :=
  pass.sources.values.filterMap SourceTarget.artifact

/-- The artifact of a committed source is among those of the sources. -/
theorem mem_sourceArtifacts {σ : Type} {pass : Pass σ μ} {key : TargetKey} {text : String}
    {artifact : Artifact} (stands : pass.sourceAt key = ⟨text, some artifact⟩) :
    artifact ∈ pass.sourceArtifacts := by
  -- A source that is not there would have no artifact.
  cases found : pass.sources.find? key with
  | none =>
    simp only [sourceAt, found, Option.getD_none, SourceTarget.fresh] at stands
    cases stands
  | some target =>
    simp only [sourceAt, found, Option.getD_some] at stands
    exact List.mem_filterMap.2 ⟨target, Table.mem_values_of_find? found, by rw [stands]⟩

/-- A pass that only found its own files again: the disk is as it was, nothing was written, and each
artifact of a source is regenerated and reported as such. -/
structure Rerun (settings : FileSettings) (suffix : String) (disk : Disk)
    (diagnostics : List Diagnostic) (moves : List (Move μ)) (pass : Pass FileState μ) : Prop where
  settled : Settled moves pass
  opened : pass.finalized = false
  disk : pass.outlet.state.disk = disk
  written : pass.outlet.state.written = []
  created : ∀ path ∈ pass.outlet.state.created, ∃ key text,
    .settleSource key text ∈ moves ∧ path = settings.sourcePath suffix key
  reported : ∃ added, pass.outlet.diagnostics = diagnostics ++ added ∧
    added.Perm (pass.sourceArtifacts.map fun artifact =>
      SourceTarget.regeneratedDiagnostic artifact.key)
  artifacts : ∀ artifact ∈ pass.sourceArtifacts,
    artifact.regenerated = true ∧ artifact.collided = false
  uncompleted : ∀ key, (pass.serviceAt key).completed = false

namespace Rerun

variable {settings : FileSettings} {suffix : String} {rewrite : String → String}
  {look : Path → FileState → Option ByteArray} {disk : Disk} {diagnostics : List Diagnostic}
  {moves : List (Move μ)} {pass : Pass FileState μ}

/-- A pass at its start has found nothing again yet. -/
theorem start (disk : Disk) (diagnostics : List Diagnostic) (memory : μ) :
    Rerun settings suffix disk diagnostics [] (.start (.start disk) diagnostics memory) where
  settled := settled_start _ _ _
  opened := rfl
  disk := rfl
  written := rfl
  created := nofun
  reported := ⟨[], by simp [Pass.start], .refl _⟩
  artifacts := nofun
  uncompleted := fun _ => rfl

/-- A move that settles nothing, reports nothing and leaves the sink and the sources alone keeps
what is found again. -/
theorem keep (rerun : Rerun settings suffix disk diagnostics moves pass) {move : Move μ}
    {after : Pass FileState μ} (settled : Settled (moves ++ [move]) after)
    (opened : after.finalized = pass.finalized)
    (state : after.outlet.state = pass.outlet.state)
    (reported : after.outlet.diagnostics = pass.outlet.diagnostics)
    (artifacts : after.sourceArtifacts.Perm pass.sourceArtifacts)
    (uncompleted : ∀ key, (after.serviceAt key).completed = false) :
    Rerun settings suffix disk diagnostics (moves ++ [move]) after where
  settled := settled
  opened := opened.trans rerun.opened
  disk := by rw [state]; exact rerun.disk
  written := by rw [state]; exact rerun.written
  created := by
    rw [state]
    intro path member
    obtain ⟨key, text, old, same⟩ := rerun.created path member
    exact ⟨key, text, List.mem_append_left _ old, same⟩
  reported := by
    -- One warning stands for each artifact, and neither of them has changed.
    obtain ⟨added, same, perm⟩ := rerun.reported
    exact ⟨added, reported.trans same, perm.trans (artifacts.symm.map _)⟩
  artifacts := fun artifact member => rerun.artifacts artifact (artifacts.mem_iff.1 member)
  uncompleted := uncompleted

/-- A settling that fits is regenerated: it reports its warning and adds its artifact. -/
theorem settle (rerun : Rerun settings suffix disk diagnostics moves pass)
    (utf8 : settings.encoding = .utf8) (incremental : settings.incremental = true)
    {key : TargetKey} {text : String}
    (fits : Repeatable settings suffix rewrite disk moves (.settleSource key text)) :
    (settleSource (settings.setup suffix rewrite look) key text pass).1 = .ok () ∧
      Rerun settings suffix disk diagnostics (moves ++ [.settleSource key text])
        (settleSource (settings.setup suffix rewrite look) key text pass).2 := by
  -- The text is in its file, so the file is found instead of written.
  obtain ⟨never, regular, held⟩ := fits
  have untouched := rerun.settled.untouched never
  rw [← rerun.disk] at held
  obtain ⟨created, before, again, more⟩ :=
    SourceTarget.emit_again utf8 incremental rfl regular.back held
  obtain ⟨log, result⟩ := @settleSource_untouched FileState μ
    (settings.setup suffix rewrite look) key text _ pass _ _ untouched rfl again
  have settled := @Settled.step FileState μ _ _ rerun.settled (settings.setup suffix rewrite look)
    (.settleSource key text) fun _ _ same => by
      cases same
      exact congrArg Prod.fst result
  rw [show (Move.settleSource key text : Move μ).run (settings.setup suffix rewrite look) pass = _
    from result] at settled
  -- The source had no artifact before, and has the new one now.
  have artifacts := pass.sources.filterMap_put SourceTarget.artifact key
    ⟨text, some ⟨key, .source, true, false⟩⟩ (by
      intro target found
      simp only [sourceAt, found, Option.getD_some] at untouched
      rw [untouched]
      rfl)
  rw [result]
  refine ⟨rfl, settled, rerun.opened, rerun.disk, rerun.written, ?_, ?_, ?_, rerun.uncompleted⟩
  -- What counts as created was so before, or it is the path of this source.
  · intro path member
    have origin : path ∈ pass.outlet.state.created ∨ path = settings.sourcePath suffix key := by
      rcases more with same | longer
      · exact Or.inl (same ▸ member)
      · simp only [longer, List.mem_append, List.mem_singleton] at member
        exact member
    rcases origin with old | own
    · obtain ⟨other, text', settled', same⟩ := rerun.created path old
      exact ⟨other, text', List.mem_append_left _ settled', same⟩
    · exact ⟨key, text, List.mem_append_right _ List.mem_cons_self, own⟩
  -- The new warning comes last, and the new artifact somewhere in the table.
  · obtain ⟨added, same, perm⟩ := rerun.reported
    refine ⟨added ++ [SourceTarget.regeneratedDiagnostic key], ?_, ?_⟩
    · simp only [same, List.append_assoc]
    · have warned := artifacts.symm.map fun artifact : Artifact =>
        SourceTarget.regeneratedDiagnostic artifact.key
      exact (List.perm_append_singleton _ _).trans ((perm.cons _).trans warned)
  · intro artifact member
    rcases List.mem_cons.1 (artifacts.mem_iff.1 member) with own | old
    · rw [own]
      exact ⟨rfl, rfl⟩
    · exact rerun.artifacts artifact old

/-- Every move that fits succeeds, and keeps what is found again. -/
theorem step (rerun : Rerun settings suffix disk diagnostics moves pass)
    (utf8 : settings.encoding = .utf8) (incremental : settings.incremental = true) {move : Move μ}
    (fits : Repeatable settings suffix rewrite disk moves move) :
    (move.run (settings.setup suffix rewrite look) pass).1 = .ok () ∧
      Rerun settings suffix disk diagnostics (moves ++ [move])
        (move.run (settings.setup suffix rewrite look) pass).2 := by
  have opened := rerun.opened
  -- A move that settles nothing keeps the sources as they were settled.
  have others : (∀ key text, move ≠ .settleSource key text) →
      Settled (moves ++ [move]) (move.run (settings.setup suffix rewrite look) pass).2 :=
    fun apart => rerun.settled.step fun key text same => absurd same (apart key text)
  cases move with
  | settleSource key text => exact rerun.settle utf8 incremental fits
  | requestSource key =>
    have settled := others (by simp)
    obtain ⟨log, result⟩ := run_requestSource (settings.setup suffix rewrite look) pass key
    rw [opened] at result
    rw [result] at settled ⊢
    refine ⟨rfl, rerun.keep settled opened.symm rfl rfl ?_ rerun.uncompleted⟩
    -- A target that is built has no artifact.
    simp only [sourceArtifacts, Bool.false_eq_true, if_false]
    rcases requested_cases pass.sources key .fresh with ⟨same, _⟩ | ⟨put, absent⟩
    · rw [same]
    · rw [put]
      refine pass.sources.filterMap_put SourceTarget.artifact key .fresh fun held found => ?_
      simp [absent] at found
  | requestService interface =>
    have settled := others (by simp)
    obtain ⟨log, result⟩ := run_requestService (settings.setup suffix rewrite look) pass interface
    rw [opened] at result
    rw [result] at settled ⊢
    refine ⟨rfl, rerun.keep settled opened.symm rfl rfl (.refl _) ?_⟩
    intro key
    rw [serviceAt_requested rfl]
    exact rerun.uncompleted key
  | contribute interface text =>
    have settled := others (by simp)
    -- No service is committed yet, so the text is taken in.
    have added := appendService_apply (serviceKey interface) text pass
    simp only [rerun.uncompleted, Bool.false_eq_true, if_false] at added
    rw [run, added] at settled ⊢
    refine ⟨rfl, rerun.keep settled rfl rfl rfl (.refl _) ?_⟩
    intro key
    rw [serviceAt_put rfl]
    split
    · exact rerun.uncompleted (serviceKey interface)
    · exact rerun.uncompleted key
  | system message =>
    exact ⟨rfl, rerun.keep (others (by simp)) rfl rfl rfl (.refl _) rerun.uncompleted⟩
  | remember memory =>
    exact ⟨rfl, rerun.keep (others (by simp)) rfl rfl rfl (.refl _) rerun.uncompleted⟩
  | dropSource | dropService | error | finalize => exact fits.elim

end Rerun

end Pass

end Stencil
