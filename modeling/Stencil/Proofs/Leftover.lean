import Stencil.Proofs.Outcome
import Stencil.Proofs.Script.Moves

/-! What failed calls leave behind: a call whose body has rendered adds its text to its source before it
commits the source, and the text stays there where the commit fails. -/

namespace Stencil

open Attempt

variable {σ μ : Type}

namespace Move

variable (setup : Setup σ)

/-- The text that a move leaves behind in a source that it could not commit. -/
def failedText (key : TargetKey) (move : Move μ) (pass : Pass σ μ) : List String :=
  match move with
  | .settleSource other text =>
    if other = key ∧ (Pass.settleSource setup other text pass).1.isOk = false then [text] else []
  | _ => []

/-- The texts that a row of moves leaves behind in a source that they could not commit, in order. -/
def failedTexts (key : TargetKey) : List (Move μ) → Pass σ μ → List String
  | [], _ => []
  | move :: rest, pass =>
    failedText setup key move pass ++ failedTexts key rest (move.run setup pass).2

variable {setup}

/-- A source that is not committed after a settling was not committed before it, and holds the text
of the settling behind its own if this was meant for it. -/
theorem settleSource_buffers {key other : TargetKey} {text : String} {pass : Pass σ μ}
    (uncommitted : ((Pass.settleSource setup other text pass).2.sourceAt key).committed = false) :
    (pass.sourceAt key).committed = false ∧
      ((Pass.settleSource setup other text pass).2.sourceAt key).content =
        (pass.sourceAt key).content ++
          String.join (failedText setup key (.settleSource other text) pass) := by
  simp only [failedText]
  have settling := Pass.settleSource_settling setup other text pass
  generalize Pass.settleSource setup other text pass = answer at settling uncommitted ⊢
  obtain ⟨result, after⟩ := answer
  by_cases same : other = key
  · subst same
    have held : ∀ {later : Pass σ μ} {target : SourceTarget},
        later.sources = pass.sources.put other target → later.sourceAt other = target := by
      intro later target put
      rw [Pass.sourceAt_put put, if_pos rfl]
    cases settling with
    | repeated committed => cases committed.symm.trans uncommitted
    | committed _ formatted emitted =>
      -- A source that this settling commits is committed afterwards.
      rw [held rfl] at uncommitted
      cases uncommitted
    -- A source whose commit fails has taken the text in before.
    | unformatted before | failed before =>
      refine ⟨before, (congrArg SourceTarget.content (held rfl)).trans ?_⟩
      simp [Except.isOk, Except.toBool, String.join_cons]
  -- Another source is left alone.
  · have apart : ∀ more, (.settleSource other text : Move μ) ≠ .settleSource key more := by
      intro more equal
      cases equal
      exact same rfl
    have kept := (frame_settleSource settling).sources key apart
    rw [kept] at uncommitted ⊢
    exact ⟨uncommitted, by simp [same]⟩

/-- A source that is not committed after a move was not committed before it, and holds what the move
left behind in it at the end of its text. -/
theorem run_buffers (move : Move μ) {key : TargetKey} {pass : Pass σ μ}
    (uncommitted : ((move.run setup pass).2.sourceAt key).committed = false) :
    (pass.sourceAt key).committed = false ∧
      ((move.run setup pass).2.sourceAt key).content =
        (pass.sourceAt key).content ++ String.join (failedText setup key move pass) := by
  by_cases settles : ∃ other text, move = .settleSource other text
  · obtain ⟨other, text, rfl⟩ := settles
    exact settleSource_buffers uncommitted
  -- No other move touches a source.
  · have kept := (run_frame setup move pass).sources key fun text same => settles ⟨key, text, same⟩
    have nothing : failedText setup key move pass = [] := by
      cases move with
      | settleSource other text => exact absurd ⟨other, text, rfl⟩ settles
      | _ => rfl
    rw [kept] at uncommitted ⊢
    exact ⟨uncommitted, by simp [nothing]⟩

/-- A source that is not committed after a row of moves was never committed on the way, and holds all
that the row left behind in it. -/
theorem play_buffers (moves : List (Move μ)) {key : TargetKey} {pass : Pass σ μ}
    (uncommitted : ((play setup moves pass).sourceAt key).committed = false) :
    (pass.sourceAt key).committed = false ∧
      ((play setup moves pass).sourceAt key).content =
        (pass.sourceAt key).content ++ String.join (failedTexts setup key moves pass) := by
  induction moves generalizing pass with
  | nil => exact ⟨uncommitted, by simp [play, failedTexts]⟩
  | cons move rest ih =>
    -- What the first move leaves behind comes before what the others do.
    obtain ⟨between, later⟩ := ih uncommitted
    obtain ⟨before, first⟩ := run_buffers move between
    refine ⟨before, ?_⟩
    rw [play, later, first, failedTexts, String.join_append, String.append_assoc]

end Move

namespace Pass

/-- What a failed call for a source has done, by the step at which it failed. -/
inductive FailedCall (setup : Setup σ) (key : TargetKey) (body : Attempt (Pass σ μ) String)
    (pass : Pass σ μ) : Failure → Pass σ μ → Prop where
  /-- The pass was closed: nothing happens. -/
  | refused (closed : pass.finalized = true) : FailedCall setup key body pass (.closed .pass) pass
  /-- The body failed: what it has done is all that happens behind the request. -/
  | unrendered {failure : Failure} {asked after : Pass σ μ}
      (requested : requestSource (some key.package) (some key.name) pass = (.ok key, asked))
      (same : ∀ other, asked.sourceAt other = pass.sourceAt other)
      (rendered : body asked = (.error failure, after)) :
      FailedCall setup key body pass failure after
  /-- The text could not be committed: the source holds it behind what the body has left there, and
  is not committed; no other source changes. -/
  | unsettled {text : String} {failure : Failure} {asked inner after : Pass σ μ}
      (requested : requestSource (some key.package) (some key.name) pass = (.ok key, asked))
      (same : ∀ other, asked.sourceAt other = pass.sourceAt other)
      (rendered : body asked = (.ok text, inner))
      (uncommitted : (inner.sourceAt key).committed = false)
      (left : after.sourceAt key = ⟨(inner.sourceAt key).content ++ text, none⟩)
      (others : ∀ other, other ≠ key → after.sourceAt other = inner.sourceAt other) :
      FailedCall setup key body pass failure after

/-- A request is refused by a closed pass, and otherwise leaves all sources as they read. -/
theorem requestSource_cases (key : TargetKey) (pass : Pass σ μ) :
    (pass.finalized = true ∧
      requestSource (some key.package) (some key.name) pass = (.error (.closed .pass), pass)) ∨
    ∃ asked, requestSource (some key.package) (some key.name) pass = (.ok key, asked) ∧
      ∀ other, asked.sourceAt other = pass.sourceAt other := by
  obtain ⟨log, requested⟩ := requestSource_apply key pass
  cases closed : pass.finalized with
  | true =>
    simp only [closed, if_true] at requested
    exact .inl ⟨rfl, requested⟩
  | false =>
    -- A target that is built on request reads as one that is not there.
    simp only [closed, Bool.false_eq_true, if_false] at requested
    exact .inr ⟨_, requested, find?_requested pass.sources key .fresh⟩

/-- A call for a source that fails has failed at one of the three steps. -/
theorem failedCall_of_source {setup : Setup σ} {package name : String}
    {body : Attempt (Pass σ μ) String} {pass after : Pass σ μ} {failure : Failure}
    (fails : source setup package name body pass = (.error failure, after)) :
    FailedCall setup ⟨package, name⟩ body pass failure after := by
  unfold source at fails
  rw [bind_apply] at fails
  -- The three steps are the request, the body and the settling.
  rcases requestSource_cases ⟨package, name⟩ pass with ⟨closed, refused⟩ | ⟨asked, requested, same⟩
  · rw [refused] at fails
    cases fails
    exact .refused closed
  rw [requested] at fails
  simp only [bind_apply] at fails
  rcases rendered : body asked with ⟨dropped | text, inner⟩
  · rw [rendered] at fails
    cases fails
    exact .unrendered requested same rendered
  · simp only [rendered] at fails
    have settling := settleSource_settling setup ⟨package, name⟩ text inner
    generalize settleSource setup ⟨package, name⟩ text inner = answer at settling fails
    obtain ⟨result, last⟩ := answer
    -- Of the four ways of a settling, the last two fail.
    cases settling with
    | repeated committed => cases fails
    | committed uncommitted formatted emitted => cases fails
    | unformatted uncommitted | failed uncommitted =>
      cases fails
      refine .unsettled requested same rendered uncommitted ?_ ?_
      · rw [sourceAt_put rfl, if_pos rfl]
      · intro other different
        rw [sourceAt_put rfl, if_neg different]

/-- A pass whose source of a key holds a text and is not committed. -/
def holding (key : TargetKey) (content : String) (pass : Pass σ μ) : Pass σ μ :=
  { pass with sources := pass.sources.put key ⟨content, none⟩ }

/-- A commit of a text that succeeds: its formatted text is what the sink is told to write, and of the
pass only the outlet and the source change. -/
structure CommitsAll (setup : Setup σ) (key : TargetKey) (content : String) (before : Pass σ μ)
    (result : Except Failure Unit) (after : Pass σ μ) (artifact : Artifact) : Prop where
  succeeds : result = .ok ()
  emitted : ∃ shown outlet log, setup.style.formatter content = .ok shown ∧
    SourceTarget.emit setup.sink key (key.name ++ setup.style.suffix) shown before.outlet =
      (.ok artifact, outlet) ∧
    after = { before with
      outlet := { outlet with log }
      sources := before.sources.put key ⟨content, some artifact⟩ } ∧
    ∃ ending calls, Ends setup key shown (holding key content before) ending result after calls

/-- A settling that succeeds on a source that is not committed commits all that the source holds with
the text of the settling behind it. -/
theorem settleSource_commits {setup : Setup σ} {key : TargetKey} {text : String} {pass : Pass σ μ}
    (uncommitted : (pass.sourceAt key).committed = false)
    (succeeds : (settleSource setup key text pass).1 = .ok ()) :
    ∃ artifact, CommitsAll setup key ((pass.sourceAt key).content ++ text) pass
      (settleSource setup key text pass).1 (settleSource setup key text pass).2 artifact := by
  have settling := settleSource_settling setup key text pass
  -- The commit begins where the source holds both texts.
  have begun := settleSource_uncommitted setup text uncommitted
  have held : ((holding key ((pass.sourceAt key).content ++ text) pass).sourceAt key) =
      ⟨(pass.sourceAt key).content ++ text, none⟩ := by
    rw [sourceAt_put rfl, if_pos rfl]
  have ends : ∀ shown, setup.style.formatter ((pass.sourceAt key).content ++ text) = .ok shown →
      ∃ ending calls, Ends setup key shown (holding key ((pass.sourceAt key).content ++ text) pass)
        ending (settleSource setup key text pass).1 (settleSource setup key text pass).2 calls := by
    intro shown formatted
    rw [begun]
    exact exists_ends setup (by rw [held]; rfl) (by rw [held]; exact formatted)
  generalize settleSource setup key text pass = answer at settling succeeds ends ⊢
  obtain ⟨result, after⟩ := answer
  -- The settling succeeds and the source was open, so it has been committed.
  cases settling with
  | repeated committed => cases committed.symm.trans uncommitted
  | committed _ formatted emitted =>
    exact ⟨_, rfl, _, _, _, formatted, emitted, rfl, ends _ formatted⟩
  | unformatted => cases succeeds
  | failed => cases succeeds

/-- A call for a source that fails before its text is there leaves its source as the calls inside its
body have left it; one that fails later leaves its text in it as well, uncommitted. Along a script, a
source that is not committed holds the texts of all such calls for it, and the call that commits it
formats and writes them with its own text behind them. -/
theorem failed_texts_stay (setup : Setup σ) :
    (∀ package name body (pass after : Pass σ μ) failure,
      source setup package name body pass = (.error failure, after) →
        FailedCall setup ⟨package, name⟩ body pass failure after) ∧
    ∀ (script : Script μ) (pass : Pass σ μ) (key : TargetKey),
      let left moves := (pass.sourceAt key).content ++
        String.join (Move.failedTexts setup key moves pass)
      let last := (script.run setup pass).2
      ((last.sourceAt key).committed = false →
        last.sourceAt key = ⟨left (script.moves setup pass), none⟩) ∧
      ∀ earlier text later, script.moves setup pass = earlier ++ .settleSource key text :: later →
        let before := Move.play setup earlier pass
        (before.sourceAt key).committed = false →
        (settleSource setup key text before).1 = .ok () →
        ∃ artifact, CommitsAll setup key (left earlier ++ text) before
            (settleSource setup key text before).1 (settleSource setup key text before).2 artifact ∧
          last.sourceAt key = ⟨left earlier ++ text, some artifact⟩ := by
  refine ⟨fun package name body pass after failure => failedCall_of_source, ?_⟩
  intro script pass key left last
  have played : last = Move.play setup (script.moves setup pass) pass :=
    Script.run_moves setup script pass
  refine ⟨?_, ?_⟩
  · intro uncommitted
    have held : (last.sourceAt key).content = left (script.moves setup pass) := by
      rw [played] at uncommitted ⊢
      exact (Move.play_buffers _ uncommitted).2
    -- A source without an artifact is all text.
    rcases target : last.sourceAt key with ⟨content, artifact⟩
    rw [target] at held uncommitted
    have none : artifact = none := by simpa [SourceTarget.committed] using uncommitted
    rw [none]
    exact congrArg (SourceTarget.mk · _) held
  · intro earlier text later split before uncommitted succeeds
    -- Before the commit, the source holds what the failed calls have left.
    have held := (Move.play_buffers earlier uncommitted).2
    obtain ⟨artifact, commits⟩ := settleSource_commits uncommitted succeeds
    rw [held] at commits
    refine ⟨artifact, commits, ?_⟩
    -- Once committed, the source stays as it is until the end of the script.
    obtain ⟨_, _, _, _, _, after, _⟩ := commits.emitted
    have stored : (settleSource setup key text before).2.sourceAt key =
        ⟨left earlier ++ text, some artifact⟩ := by
      rw [after, sourceAt_put rfl, if_pos rfl]
    have committed : ((settleSource setup key text before).2.sourceAt key).committed = true := by
      rw [stored]
      rfl
    rw [played, split, Move.play_append]
    exact (Move.play_keeps_committed later committed).trans stored

/-- A setup whose formatter refuses one text, on a sink that accepts all that it is told to write. -/
def fussySetup : Setup ScriptedState :=
  ⟨(SinkScript.mk none (.ok "")).sink,
    ⟨".py", fun text => if text = "bad" then .error (.raised .value "bad") else .ok text⟩,
    fun _ _ => none⟩

/-- A call that fails because its text is refused leaves this text in its source, where none was, and
the next call for the source writes it in front of its own. -/
theorem refused_text_is_written :
    let key : TargetKey := ⟨"a", "m"⟩
    let start : Pass ScriptedState Unit := .start ⟨[], ""⟩ [] ()
    let first := source fussySetup "a" "m" (pure "bad") start
    let second := source fussySetup "a" "m" (pure "good") first.2
    (requestSource (some "a") (some "m") start).2.sourceAt key = .fresh ∧
      first.1 = .error (.raised .value "bad") ∧ first.2.sourceAt key = ⟨"bad", none⟩ ∧
      second.1 = .ok "" ∧
      second.2.outlet.state.calls = [.openWrite .sources "a" "m.py", .close "badgood"] := by
  exact ⟨rfl, by decide +kernel, rfl, by decide +kernel, by decide +kernel⟩

/-- A script that recovers from a call for a source whose text is refused, and calls again. -/
def secondTry : Script Unit :=
  .recover (.source "a" "m" (fun _ => .done "bad") (.done "")) fun _ =>
    .source "a" "m" (fun _ => .done "good") (.done "")

/-- The second call commits the text of the first one with its own behind it, and this is what the
sink is told to write. -/
theorem second_try_writes_both :
    let start : Pass ScriptedState Unit := .start ⟨[], ""⟩ [] ()
    let key : TargetKey := ⟨"a", "m"⟩
    let earlier := [.requestSource key, .settleSource key "bad", .requestSource key]
    let before := Move.play fussySetup earlier start
    let settled := settleSource fussySetup key "good" before
    Move.failedTexts fussySetup key earlier start = ["bad"] ∧
      (∃ artifact, CommitsAll fussySetup key "badgood" before settled.1 settled.2 artifact ∧
        (secondTry.run fussySetup start).2.sourceAt key = ⟨"badgood", some artifact⟩) ∧
      settled.2.outlet.state.calls = [.openWrite .sources "a" "m.py", .close "badgood"] := by
  intro start key earlier before settled
  refine ⟨by decide +kernel, ?_, by decide +kernel⟩
  -- The second call is the last move of the script.
  have split : secondTry.moves fussySetup start = earlier ++ [.settleSource key "good"] := by
    decide +kernel
  exact ((failed_texts_stay fussySetup).2 secondTry start key).2 earlier "good" [] split
    (by decide +kernel) (by decide +kernel)

end Pass

end Stencil
