import Stencil.Proofs.Commits
import Stencil.Proofs.Pass.Files
import Stencil.Proofs.Pass.Returned
import Stencil.Proofs.Script.Uncaught

/-! Rendering a body once more: what a body did without an error when it rendered first, it does again
on the pass that it left behind, except that every source it wrote is now reported as a repeated one.
-/

namespace Stencil

open Attempt

variable {σ μ : Type}

namespace Move

/-- A move belongs to a call that writes, contributes, reports or prints. -/
def IsCall : Move μ → Prop
  | .finalize | .remember _ => False
  | _ => True

/-- Tests for the moves that settle a source. -/
def settles : Move μ → Bool
  | .settleSource _ _ => true
  | _ => false

/-- Every move that settles a source succeeds. -/
def SettlesAll (setup : Setup σ) : List (Move μ) → Pass σ μ → Prop :=
  Along setup fun before move => move.settles = true → (move.run setup before).1.isOk = true

instance (setup : Setup σ) (moves : List (Move μ)) (pass : Pass σ μ) :
    Decidable (SettlesAll setup moves pass) :=
  inferInstanceAs (Decidable (Along _ _ _ _))

/-- A move begins with a call if it belongs to one. -/
theorem isCall_call {move : Move μ} : move.call.IsCall ↔ move.IsCall := by
  cases move <;> exact Iff.rfl

/-- Of the moves of a call, only those that settle a source or report an error add a diagnostic. -/
theorem run_diagnostics (setup : Setup σ) {move : Move μ} (call : move.IsCall)
    (apart : move.settles = false) (silent : ∀ message, move ≠ .error message) (pass : Pass σ μ) :
    (move.run setup pass).2.outlet.diagnostics = pass.outlet.diagnostics := by
  -- What is requested is logged, and what is contributed is kept for the end of the pass.
  cases move with
  | requestSource key =>
    obtain ⟨log, result⟩ := run_requestSource setup pass key
    rw [result]
    split <;> rfl
  | requestService interface =>
    obtain ⟨log, result⟩ := run_requestService setup pass interface
    rw [result]
    split <;> rfl
  | contribute interface text =>
    rw [run, Pass.appendService_apply]
    split <;> rfl
  -- The two moves that report are set aside.
  | settleSource key text => cases apart
  | error message => exact absurd rfl (silent message)
  | finalize | remember => exact call.elim
  | dropSource | dropService | system => rfl

/-- A source that a row of moves settles is one for which a call returns, if all settlings succeed. -/
theorem SettlesAll.returned {setup : Setup σ} {moves : List (Move μ)} {pass : Pass σ μ}
    (all : SettlesAll setup moves pass) {key : TargetKey} {text : String}
    (settled : .settleSource key text ∈ moves) : key ∈ returned setup moves pass := by
  induction moves generalizing pass with
  | nil => cases settled
  | cons move rest ih =>
    rw [Move.returned, List.mem_append]
    rcases List.mem_cons.1 settled with rfl | later
    -- The settling at the front succeeds, and so its call returns.
    · have succeeds : (Pass.settleSource setup key text pass).1.isOk = true := all.1 rfl
      left
      simp [returns, run, succeeds]
    · exact Or.inr (ih all.2 later)

end Move

namespace Pass

/-- A later pass is as open as an earlier one, remembers the same, and has committed the same
services. -/
structure Steady (before after : Pass σ μ) : Prop where
  finalized : after.finalized = before.finalized
  memory : after.memory = before.memory
  completed : ∀ key, (after.serviceAt key).completed = (before.serviceAt key).completed

/-- A pass that stays steady twice stays steady. -/
theorem Steady.trans {first second third : Pass σ μ} (left : Steady first second)
    (right : Steady second third) : Steady first third :=
  ⟨right.finalized.trans left.finalized, right.memory.trans left.memory,
    fun key => (right.completed key).trans (left.completed key)⟩

/-- What stays steady in one direction does so in the other. -/
theorem Steady.symm {first second : Pass σ μ} (steady : Steady first second) :
    Steady second first :=
  ⟨steady.finalized.symm, steady.memory.symm, fun key => (steady.completed key).symm⟩

/-- Every move of a call leaves a pass steady, even if it fails. -/
theorem run_steady (setup : Setup σ) {move : Move μ} (call : move.IsCall) (pass : Pass σ μ) :
    Steady pass (move.run setup pass).2 := by
  cases move with
  | requestSource key =>
    -- A request for a source changes the table of sources and the log.
    obtain ⟨log, result⟩ := Move.run_requestSource setup pass key
    rw [result]
    split
    · exact ⟨rfl, rfl, fun _ => rfl⟩
    · exact ⟨rfl, rfl, fun _ => rfl⟩
  | settleSource key text =>
    have settling := settleSource_settling setup key text pass
    show Steady pass (settleSource setup key text pass).2
    generalize settleSource setup key text pass = answer at settling ⊢
    obtain ⟨result, after⟩ := answer
    -- A source is settled without regard to the services.
    cases settling with
    | repeated => exact ⟨rfl, rfl, fun _ => rfl⟩
    | committed => exact ⟨rfl, rfl, fun _ => rfl⟩
    | unformatted => exact ⟨rfl, rfl, fun _ => rfl⟩
    | failed => exact ⟨rfl, rfl, fun _ => rfl⟩
  | requestService interface =>
    -- A service that is built on request is as little committed as one that is not there.
    obtain ⟨log, result⟩ := Move.run_requestService setup pass interface
    rw [result]
    split
    · exact ⟨rfl, rfl, fun _ => rfl⟩
    · exact ⟨rfl, rfl, fun key => congrArg _ (serviceAt_requested rfl key)⟩
  | contribute interface text =>
    rw [Move.run, appendService_apply]
    split
    · exact ⟨rfl, rfl, fun _ => rfl⟩
    -- The lines of the service are more, but it is as committed as before.
    · refine ⟨rfl, rfl, fun key => ?_⟩
      rw [serviceAt_put rfl]
      split
      · rename_i same
        rw [same]
        rfl
      · rfl
  | dropSource | dropService | error | system => exact ⟨rfl, rfl, fun _ => rfl⟩
  | finalize | remember => exact call.elim

/-- A row of moves of calls leaves a pass steady. -/
theorem play_steady (setup : Setup σ) {moves : List (Move μ)} (calls : ∀ move ∈ moves, move.IsCall)
    (pass : Pass σ μ) : Steady pass (Move.play setup moves pass) := by
  -- Each move is steady, and steadiness is passed on.
  induction moves generalizing pass with
  | nil => exact ⟨rfl, rfl, fun _ => rfl⟩
  | cons move rest ih =>
    have first := run_steady setup (calls move List.mem_cons_self) pass
    exact first.trans (ih (fun other member => calls other (List.mem_cons_of_mem _ member)) _)

/-- On a pass that stays steady, a move that settles no source answers the same. -/
theorem Steady.answer {pass other : Pass σ μ} (steady : Steady pass other) (setup : Setup σ)
    {move : Move μ} (call : move.IsCall) (apart : move.settles = false) :
    (move.run setup other).1 = (move.run setup pass).1 := by
  -- A request is refused by a closed pass, and a contribution by a committed service.
  cases move with
  | requestSource key =>
    obtain ⟨_, here⟩ := Move.run_requestSource setup pass key
    obtain ⟨_, there⟩ := Move.run_requestSource setup other key
    rw [here, there, steady.finalized]
    split <;> rfl
  | requestService interface =>
    obtain ⟨_, here⟩ := Move.run_requestService setup pass interface
    obtain ⟨_, there⟩ := Move.run_requestService setup other interface
    rw [here, there, steady.finalized]
    split <;> rfl
  -- Both services are committed or neither is.
  | contribute interface text =>
    show (appendService (serviceKey interface) text other).1 =
      (appendService (serviceKey interface) text pass).1
    rw [appendService_apply, appendService_apply, steady.completed]
    split <;> rfl
  | settleSource key text => cases apart
  | dropSource | dropService | error | system => rfl
  | finalize | remember => exact call.elim

/-- A committed source that is settled is reported as a repeated one, and nothing else happens. -/
theorem settleSource_again (setup : Setup σ) {key : TargetKey} {pass : Pass σ μ}
    (committed : (pass.sourceAt key).committed = true) (text : String) :
    ∃ log, settleSource setup key text pass = (.ok (), { pass with
      outlet := ⟨pass.outlet.state, pass.outlet.diagnostics ++ [repeatedDiagnostic key], log⟩ }) := by
  -- The other three outcomes begin with a source that is not committed.
  have settling := settleSource_settling setup key text pass
  generalize settleSource setup key text pass = answer at settling ⊢
  obtain ⟨result, after⟩ := answer
  cases settling with
  | repeated => exact ⟨_, rfl⟩
  | committed uncommitted => cases committed.symm.trans uncommitted
  | unformatted uncommitted => cases committed.symm.trans uncommitted
  | failed uncommitted => cases committed.symm.trans uncommitted

/-- The second rendering of a body beside the record of the first one, which led to a middle pass: as
many errors are added as sources were settled, and no source and no file changes. -/
structure Repeats (setup : Setup σ) (pass middle : Pass σ μ) (first : Recorded σ μ)
    (second : Pass σ μ) : Prop where
  played : first.pass = Move.play setup first.moves pass
  before : Steady pass first.pass
  again : Steady pass second
  state : second.outlet.state = middle.outlet.state
  sources : ∀ key, second.sourceAt key = middle.sourceAt key
  errors : second.errors = middle.errors + first.moves.countP Move.settles

/-- What a move of the first rendering has to be like for the second one to repeat it. -/
structure Repeatable (setup : Setup σ) (middle before : Pass σ μ) (move : Move μ) : Prop where
  call : move.IsCall
  quiet : (move.run setup before).2.errors = before.errors
  settled : ∀ key text, move = .settleSource key text →
    (move.run setup before).1 = .ok () ∧ (middle.sourceAt key).committed = true

/-- A repeatable move of the first rendering is answered alike in the second one. -/
theorem Repeats.act {setup : Setup σ} {pass middle second : Pass σ μ} {first : Recorded σ μ}
    (repeats : Repeats setup pass middle first second) {move : Move μ}
    (repeatable : Repeatable setup middle first.pass move) :
    (move.run setup second).1 = (move.run setup first.pass).1 ∧
      Repeats setup pass middle (setup.recorder.act move first).2 (move.run setup second).2 := by
  obtain ⟨call, quiet, settled⟩ := repeatable
  -- On either side, one more move goes on from where the moves before have led.
  have played : (move.run setup first.pass).2 = Move.play setup (first.moves ++ [move]) pass := by
    rw [Move.play_concat, ← repeats.played]
  have before := repeats.before.trans (run_steady setup call first.pass)
  have again := repeats.again.trans (run_steady setup call second)
  by_cases settles : ∃ key text, move = .settleSource key text
  -- The source is committed by now, so settling it once more adds an error and nothing else.
  · obtain ⟨key, text, rfl⟩ := settles
    obtain ⟨succeeds, committed⟩ := settled key text rfl
    rw [← repeats.sources] at committed
    obtain ⟨log, reported⟩ := settleSource_again setup committed text
    have here : (Move.settleSource key text : Move μ).run setup second = _ := reported
    rw [here] at again ⊢
    refine ⟨succeeds.symm, played, before, again, repeats.state, repeats.sources, ?_⟩
    -- The one error that is added is the one that the settled source stands for.
    show countSeverity .error (second.outlet.diagnostics ++ [repeatedDiagnostic key]) = _
    have one : countSeverity .error [repeatedDiagnostic key] = 1 := rfl
    have counted : countSeverity .error second.outlet.diagnostics = _ := repeats.errors
    rw [countSeverity, List.countP_append, ← countSeverity, ← countSeverity, counted, one]
    simp [Setup.recorder_act, Move.settles, Nat.add_assoc]
  -- Any other move leaves the sources, the files and the errors alone.
  · have apart : ∀ key text, move ≠ .settleSource key text := fun key text same =>
      settles ⟨key, text, same⟩
    have other : move.settles = false := by
      cases move with
      | settleSource key text => exact absurd rfl (apart key text)
      | _ => rfl
    -- An error of its own would have been counted in the first rendering.
    have silent : ∀ message, move ≠ .error message := by
      rintro message rfl
      have reported := Move.errors_error setup message first.pass
      omega
    have open' : move ≠ .finalize := by
      rintro rfl
      exact call
    -- Both passes are as open and as far committed, so the move answers alike.
    refine ⟨(repeats.before.symm.trans repeats.again).answer setup call other, played, before,
      again, ?_, ?_, ?_⟩
    · rw [Move.run_state setup second apart open', repeats.state]
    · intro key
      rw [(Move.run_frame setup move second).sources key (apart key), repeats.sources]
    · show countSeverity .error (move.run setup second).2.outlet.diagnostics = _
      rw [Move.run_diagnostics setup call other silent second]
      have counted : countSeverity .error second.outlet.diagnostics = _ := repeats.errors
      simpa [Setup.recorder_act, other] using counted

/-- A first rendering that has made a move which the second one need not repeat. -/
def Unrepeatable (setup : Setup σ) (pass middle : Pass σ μ) (first : Recorded σ μ) : Prop :=
  ¬Move.Along setup (Repeatable setup middle) first.moves pass

/-- As long as the moves of the first rendering are repeatable, the second one repeats them. -/
theorem repeats_follows (setup : Setup σ) (pass middle : Pass σ μ) (move : Move μ) :
    Follows (Repeats setup pass middle) (Unrepeatable setup pass middle)
      (setup.recorder.act move) (setup.carrier.act move) := by
  constructor
  -- A move that was not repeatable stays among those that were made.
  · intro first gone all
    exact gone (Move.along_append.1 all).1
  · intro first second repeats
    by_cases all : Move.Along setup (Repeatable setup middle) (first.moves ++ [move]) pass
    · have last := (Move.along_append.1 all).2.1
      rw [← repeats.played] at last
      exact Or.inr (repeats.act last)
    · exact Or.inl all

/-- The second rendering of a body whose first one left a middle pass without an error makes the same
moves: it answers the same, and adds an error for each source that was settled. -/
theorem run_repeats (setup : Setup σ) {body : Script μ} (blind : body.Blind)
    (calls : body.Uses Move.IsCall) {pass middle : Pass σ μ}
    (rendered : (body.run setup pass).2 = middle) (quiet : middle.errors = pass.errors)
    (settled : Move.SettlesAll setup (body.moves setup pass) pass) :
    (body.run setup middle).1 = (body.run setup pass).1 ∧
      (body.run setup middle).2.outlet.state = middle.outlet.state ∧
      (∀ key, (body.run setup middle).2.sourceAt key = middle.sourceAt key) ∧
      (body.run setup middle).2.errors =
        pass.errors + (body.moves setup pass).countP Move.settles := by
  have played := Script.run_moves setup body pass
  rw [rendered] at played
  have allCalls : ∀ move ∈ body.moves setup pass, move.IsCall := fun move member =>
    Move.isCall_call.1 (Script.moves_uses setup calls pass move member)
  -- Each source that was settled is committed by the end of the first rendering.
  have committed : ∀ move ∈ body.moves setup pass, ∀ key text, move = .settleSource key text →
      (middle.sourceAt key).committed = true := by
    rintro move member key text rfl
    rw [played, Move.play_committed]
    exact Or.inr (settled.returned member)
  -- So no move of the first rendering reports an error or fails to settle a source.
  have repeatable : Move.Along setup (Repeatable setup middle) (body.moves setup pass) pass := by
    have silent : (Move.play setup (body.moves setup pass) pass).errors = pass.errors := by
      rw [← played, quiet]
    refine Move.along_imp ?_ (Move.along_and (Move.along_of_forall allCalls pass) (Move.along_and
      (Move.along_of_forall committed pass) (Move.along_and settled (Move.along_quiet silent))))
    rintro before move ⟨call, committed, succeeds, silent⟩
    refine ⟨call, silent, ?_⟩
    rintro key text rfl
    exact ⟨Move.isOk_iff.1 (succeeds rfl), committed key text rfl⟩
  -- The second rendering follows the record of the first, move by move.
  have follows := @Script.interpret_follows _ _ μ (Repeats setup pass middle)
    (Unrepeatable setup pass middle) setup.recorder.blindfold setup.carrier.blindfold
    (repeats_follows setup pass middle)
    (fun _ _ repeats => repeats.before.memory.trans repeats.again.memory.symm)
    (fun _ _ _ _ => rfl) body
  rw [Script.interpret_blindfold _ blind, Script.interpret_blindfold _ blind,
    ← Script.run_eq_interpret] at follows
  have steady := play_steady setup allCalls pass
  rw [← played] at steady
  -- At the start, the second rendering stands where the first one has ended.
  have begun : Repeats setup pass middle ⟨pass, []⟩ middle :=
    ⟨rfl, ⟨rfl, rfl, fun _ => rfl⟩, steady, rfl, fun _ => rfl, rfl⟩
  have goes := @Follows.goes _ _ _ _ _ _ _ follows ⟨pass, []⟩ middle begun
  rw [Script.recorded] at goes
  rcases goes with gone | ⟨answer, repeats⟩
  · exact absurd repeatable gone
  · refine ⟨answer, repeats.state, repeats.sources, ?_⟩
    rw [← quiet]
    exact repeats.errors

/-- Rendering a body of calls once more reports each source that it wrote, and nothing else. Where a
body trims to a text without an error, and where no settling of a source has failed on the way, which
goes without saying if the body recovers from no failure, the other two ways to shape its text end as
well. They add no error if they do not render the body again; if they do, they add one for each source
that it settled, and change no source and no file. -/
theorem rerendering_reports_sources (setup : Setup σ) {body : Script μ} (blind : body.Blind)
    (calls : body.Uses Move.IsCall) {pass middle : Pass σ μ} {shown : String}
    (trimmed : Shaping.trim (fun _ => body.run setup) pass = (.ok shown, middle))
    (quiet : middle.errors = pass.errors)
    (settled : body.Uncaught ∨ Move.SettlesAll setup (body.moves setup pass) pass) :
    ∃ text again, (body.run setup pass).1 = .ok text ∧ shown = strip text ∧
      Shaping.collapsible (fun _ => body.run setup) pass =
        (if isBlankText text then (.ok "", middle) else (.ok text, again)) ∧
      (∀ width, Shaping.linesShortable (fun _ => body.run setup) (pure width) pass =
        if Shaping.fits (Shaping.joinWords text) width then (.ok (Shaping.joinWords text), middle)
        else (.ok text, again)) ∧
      again.errors = pass.errors + (body.moves setup pass).countP Move.settles ∧
      again.outlet.state = middle.outlet.state ∧
      ∀ key, again.sourceAt key = middle.sourceAt key := by
  -- Trimming renders once, and hands on where this has led.
  have first : ∃ text, body.run setup pass = (.ok text, middle) ∧ shown = strip text := by
    obtain ⟨text, between, rendered, shaped⟩ := bind_eq_ok.1 trimmed
    obtain ⟨stripped, same⟩ := Prod.mk.inj shaped
    rw [← same]
    exact ⟨text, rendered, (Except.ok.inj stripped).symm⟩
  obtain ⟨text, rendered, stripped⟩ := first
  have all : Move.SettlesAll setup (body.moves setup pass) pass := by
    rcases settled with uncaught | all
    -- A body that recovers from nothing has succeeded with all its moves.
    · have smooth := uncaught.smooth rendered
      refine Move.along_imp ?_ smooth
      intro before move succeeds _
      exact succeeds
    · exact all
  have after : (body.run setup pass).2 = middle := by rw [rendered]
  obtain ⟨answer, state, sources, errors⟩ := run_repeats setup blind calls after quiet all
  rw [rendered] at answer
  refine ⟨text, (body.run setup middle).2, by rw [rendered], stripped, ?_, ?_, errors, state,
    sources⟩
  -- A blank text is dropped, and any other one is rendered again.
  · unfold Shaping.collapsible
    rw [bind_of_ok rendered]
    split
    · rfl
    · exact Prod.ext answer rfl
  · intro width
    -- A line that fits is joined, and a longer text is rendered again.
    unfold Shaping.linesShortable
    rw [bind_of_ok rendered]
    show (if Shaping.fits (Shaping.joinWords text) width then _ else _ : Attempt _ _) middle = _
    split
    · rfl
    · exact Prod.ext answer rfl

/-- A body that writes one source. -/
def writingBody : Script Unit := .source "a" "m" (fun _ => .done "x") (.done "t")

/-- A body that writes a source trims without an error, and is reported as soon as its text is shaped
in a way that renders it once more. -/
theorem rerendering_collides :
    let pass : Pass FileState Unit := .start (.start .fresh) [] ()
    let render : Renderer (Attempt (Pass FileState Unit)) := fun _ => writingBody.run filesSetup
    (Shaping.trim render pass).1 = .ok "t" ∧ (Shaping.trim render pass).2.errors = 0 ∧
      (Shaping.collapsible render pass).2.outlet.diagnostics = [repeatedDiagnostic ⟨"a", "m"⟩] ∧
      (Shaping.linesShortable render (pure 99) pass).2.outlet.diagnostics =
        [repeatedDiagnostic ⟨"a", "m"⟩] := by
  decide +kernel

/-- A body that contributes to a service and writes two sources, one of them inside of the other. -/
def nestingBody : Script Unit :=
  .service "I" (fun _ => .done "line")
    (.source "a" "m" (fun _ => .source "b" "n" (fun _ => .done "x") (.done "y")) (.done "t"))

/-- Rendered once more, the two sources are reported, and the contribution is not. -/
theorem nested_sources_reported :
    let pass : Pass FileState Unit := .start (.start .fresh) [] ()
    let trimmed := Shaping.trim (fun _ => nestingBody.run filesSetup) pass
    trimmed.1 = .ok "t" ∧ trimmed.2.errors = pass.errors ∧
      ∃ again, Shaping.collapsible (fun _ => nestingBody.run filesSetup) pass = (.ok "t", again) ∧
        again.errors = 2 ∧ again.outlet.state = trimmed.2.outlet.state := by
  intro pass trimmed
  have answer : trimmed.1 = .ok "t" := by decide +kernel
  have quiet : trimmed.2.errors = pass.errors := by decide +kernel
  have blind : nestingBody.Blind := by simp [nestingBody, Script.Blind]
  have calls : nestingBody.Uses Move.IsCall := by
    simp [nestingBody, Script.Uses, Move.IsCall]
  -- The conditions of the general statement are read off the body.
  have uncaught : nestingBody.Uncaught := by simp [nestingBody, Script.Uncaught]
  have trims : Shaping.trim (fun _ => nestingBody.run filesSetup) pass = (.ok "t", trimmed.2) :=
    Prod.ext answer rfl
  have first : (nestingBody.run filesSetup pass).1 = .ok "t" := by decide +kernel
  have settlings : (nestingBody.moves filesSetup pass).countP Move.settles = 2 := by decide +kernel
  refine ⟨answer, quiet, ?_⟩
  -- From here on, where the pass stands no longer matters.
  generalize trimmed.2 = middle at quiet trims ⊢
  obtain ⟨text, again, rendered, _, collapses, _, errors, state, _⟩ :=
    rerendering_reports_sources filesSetup blind calls trims quiet (.inl uncaught)
  obtain rfl : text = "t" := Except.ok.inj (rendered.symm.trans first)
  rw [settlings] at errors
  exact ⟨again, collapses, errors, state⟩

end Pass

end Stencil
