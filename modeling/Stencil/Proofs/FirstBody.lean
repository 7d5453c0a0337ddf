import Stencil.Proofs.Pass.Settled
import Stencil.Proofs.Script.Moves
import Stencil.Proofs.Target.SourceFile

/-! The first body that renders decides what a source is committed with: which calls of a script
commit, which only report, and which leave the source alone, however they are nested. -/

namespace Stencil

namespace Move

variable {μ : Type}

/-- Tests whether writing the destination of a settled source is refused at most because it counts
as created. -/
def writesOrExists (settings : FileSettings) (suffix : String) (rewrite : String → String)
    (pass : Pass FileState μ) : Move μ → Bool
  | .settleSource key text =>
    match (settings.sink.writeTo .sources key.package (key.name ++ suffix) [rewrite text]
      pass.outlet).1 with
    | .ok () => true
    | .error failure => failure.kind == .destinationExists
  | _ => true

/-- A settling that commits. The source was untouched, and from then on holds the text. The formatted
text is written to its file, or a path that counts as created is reported: with a warning if the text
is read back, and with an error otherwise. Nothing else changes but the log. -/
structure Commits (settings : FileSettings) (suffix : String) (rewrite : String → String)
    (key : TargetKey) (text : String) (before : Pass FileState μ) (result : Except Failure Unit)
    (after : Pass FileState μ) : Prop where
  succeeds : result = .ok ()
  untouched : before.sourceAt key = .fresh
  commits : ∃ artifact outlet,
    SourceTarget.FileEmission settings key (key.name ++ suffix) (rewrite text) before.outlet artifact
      outlet ∧
    after = { before with outlet, sources := before.sources.put key ⟨text, some artifact⟩ } ∧
    (artifact.regenerated = false → artifact.collided = false →
      ∃ bytes, settings.encoding.encode (rewrite text) = .ok bytes ∧
        after.outlet.state.disk.readFile
          (settings.resolve .sources key.package (key.name ++ suffix)) = .ok bytes)

/-- A settling that only reports: nothing but the diagnostics and the log changes. -/
structure Repeats (key : TargetKey) (before : Pass FileState μ) (result : Except Failure Unit)
    (after : Pass FileState μ) : Prop where
  succeeds : result = .ok ()
  reports : ∃ log, after = { before with
    outlet :=
      ⟨before.outlet.state, before.outlet.diagnostics ++ [Pass.repeatedDiagnostic key], log⟩ }

/-- What a move does to the sources of a pass over files, by the moves before it. -/
def FirstBodyStep (settings : FileSettings) (suffix : String) (rewrite : String → String)
    (earlier : List (Move μ)) (before : Pass FileState μ) (result : Except Failure Unit)
    (after : Pass FileState μ) : Move μ → Prop
  | .settleSource key text =>
    match firstText? key earlier with
    | none => Commits settings suffix rewrite key text before result after
    | some _ => Repeats key before result after
  | .dropSource _ failure => result = .error failure ∧ after = before
  | .requestSource _ =>
    after.outlet.state = before.outlet.state ∧
      after.outlet.diagnostics = before.outlet.diagnostics ∧
      ∀ key, after.sourceAt key = before.sourceAt key
  | _ => ∀ key, after.sourceAt key = before.sourceAt key

variable {settings : FileSettings} {suffix : String} {rewrite : String → String}
  {look : Path → FileState → Option ByteArray}

/-- A settling before which its source was not settled commits. -/
theorem FirstBodyStep.commits {earlier : List (Move μ)} {before after : Pass FileState μ}
    {result : Except Failure Unit} {key : TargetKey} {text : String}
    (step : FirstBodyStep settings suffix rewrite earlier before result after
      (.settleSource key text))
    (first : firstText? key earlier = none) :
    Commits settings suffix rewrite key text before result after := by
  simpa only [FirstBodyStep, first] using step

/-- Where writing is refused at most because a destination exists, every settling succeeds. -/
theorem settle_succeeds {moves : List (Move μ)} {pass : Pass FileState μ}
    (settled : Pass.Settled moves pass) {key : TargetKey} {text : String}
    (safe : writesOrExists settings suffix rewrite pass (.settleSource key text) = true) :
    ((.settleSource key text : Move μ).run (settings.setup suffix rewrite look) pass).1 =
      .ok () := by
  -- A commit can only fail when its text is written.
  have settling := Pass.settleSource_settling (settings.setup suffix rewrite look) key text pass
  show (Pass.settleSource (settings.setup suffix rewrite look) key text pass).1 = .ok ()
  generalize Pass.settleSource (settings.setup suffix rewrite look) key text pass = answer
    at settling ⊢
  obtain ⟨result, after⟩ := answer
  cases settling with
  | repeated | committed => rfl
  | unformatted _ refused => cases refused
  | failed uncommitted formatted emitted =>
    -- An uncommitted source holds no text yet, so the refused text is the one of the settling.
    have untouched : (pass.sourceAt key).content = "" := by
      cases first : firstText? key moves with
      | none => rw [settled.untouched first]; rfl
      | some earlier =>
        obtain ⟨artifact, stands⟩ := settled.committed first
        rw [stands] at uncommitted
        cases uncommitted
    rw [untouched, String.empty_append] at formatted
    cases formatted
    -- A destination that exists is no failure of the commit, and nothing else is refused.
    cases SourceTarget.emission_of_emit emitted with
    | failed wrote unrelated =>
      simp only [writesOrExists] at safe
      rw [show settings.sink.writeTo .sources key.package (key.name ++ suffix) [rewrite text]
        pass.outlet = _ from wrote] at safe
      exact absurd (by simpa using safe) unrelated

/-- Every move on a pass whose sources stand as they were settled first takes its part. -/
theorem run_firstBodyStep {earlier : List (Move μ)} {pass : Pass FileState μ}
    (settled : Pass.Settled earlier pass) {move : Move μ}
    (safe : writesOrExists settings suffix rewrite pass move = true) :
    FirstBodyStep settings suffix rewrite earlier pass
      (move.run (settings.setup suffix rewrite look) pass).1
      (move.run (settings.setup suffix rewrite look) pass).2 move := by
  -- A settling is the first of its key or a later one, and all other moves leave sources alone.
  cases move with
  | settleSource key text =>
    have succeeds := @settle_succeeds μ settings suffix rewrite look _ _ settled _ _ safe
    have settling := Pass.settleSource_settling (settings.setup suffix rewrite look) key text pass
    rw [show (Pass.settleSource (settings.setup suffix rewrite look) key text pass).1 = .ok ()
      from succeeds] at settling
    have resettling := settled.resettling settling
    rw [succeeds]
    show FirstBodyStep settings suffix rewrite earlier pass (.ok ())
      (Pass.settleSource (settings.setup suffix rewrite look) key text pass).2 _
    generalize (Pass.settleSource (settings.setup suffix rewrite look) key text pass).2 = after
      at resettling ⊢
    -- Whether the settling is the first one of its key decides what it does.
    cases resettling with
    | first never untouched formatted emitted =>
      cases formatted
      simp only [FirstBodyStep, never]
      have emission := (SourceTarget.emission_of_emit emitted).onFiles
      exact ⟨rfl, untouched, _, _, emission.relog _, rfl, emission.file⟩
    | later known =>
      simp only [FirstBodyStep, known]
      exact ⟨rfl, _, rfl⟩
  | dropSource key failure => exact ⟨rfl, rfl⟩
  -- Requests, contributions and messages touch no source that is there.
  | requestSource key =>
    have frame := run_frame (settings.setup suffix rewrite look) (.requestSource key : Move μ) pass
    obtain ⟨log, result⟩ := run_requestSource (settings.setup suffix rewrite look) pass key
    refine ⟨?_, ?_, fun other => frame.sources other nofun⟩ <;> rw [result] <;> split <;> rfl
  | requestService interface =>
    exact fun other => (run_frame (settings.setup suffix rewrite look) _ pass).sources other nofun
  | contribute interface text =>
    exact fun other => (run_frame (settings.setup suffix rewrite look) _ pass).sources other nofun
  | dropService interface failure => exact fun other => rfl
  | error message => exact fun other => rfl
  | system message => exact fun other => rfl
  | finalize =>
    exact fun other => (run_frame (settings.setup suffix rewrite look) _ pass).sources other nofun
  | remember memory => exact fun other => rfl

end Move

namespace Script

variable {μ : Type}

/-- On files whose writing is refused at most because they exist, each source is committed by the
first call whose body renders, with the text of that body. Every later call that renders reports an
error and does nothing else, and a call whose body fails does nothing by itself. -/
theorem first_body_commits (settings : FileSettings) (suffix : String) (rewrite : String → String)
    (look : Path → FileState → Option ByteArray) (script : Script μ) (state : FileState)
    (diagnostics : List Diagnostic) (memory : μ) :
    let setup := settings.setup suffix rewrite look
    let start : Pass FileState μ := .start state diagnostics memory
    let moves := script.moves setup start
    Move.Along setup
        (fun pass move => Move.writesOrExists settings suffix rewrite pass move = true) moves start →
      (script.run setup start).2 = Move.play setup moves start ∧
        Pass.Settled moves (script.run setup start).2 ∧
        ∀ earlier move later, moves = earlier ++ move :: later →
          Move.FirstBodyStep settings suffix rewrite earlier (Move.play setup earlier start)
            (move.run setup (Move.play setup earlier start)).1
            (move.run setup (Move.play setup earlier start)).2 move := by
  intro setup start moves safe
  have played := run_moves setup script start
  -- Each move keeps the sources as they were settled first, which is how the next one finds them.
  have kept : ∀ earlier (pass : Pass FileState μ) move, Pass.Settled earlier pass →
      Move.writesOrExists settings suffix rewrite pass move = true →
      Pass.Settled (earlier ++ [move]) (move.run setup pass).2 := by
    intro earlier pass move settled here
    refine settled.step fun key text same => ?_
    subst same
    exact Move.settle_succeeds settled here
  have begun := Pass.settled_start state diagnostics memory
  refine ⟨played, ?_, ?_⟩
  · rw [played]
    exact Move.play_invariant kept begun safe
  · intro earlier move later split
    -- The moves before it lead to a pass whose sources stand as they were settled.
    rw [split, Move.along_append] at safe
    exact Move.run_firstBodyStep (Move.play_invariant kept begun safe.1) safe.2.1

/-- Sources and services under roots of their own, over the files of earlier builds. -/
def separateRoots : FileSettings := ⟨.ofString "src", .ofString "res", true, .utf8⟩

/-- A body that writes its own source, and one that fails after writing its own source. -/
def reentrantSources : Script Unit :=
  .source "a" "m" (fun _ => .source "a" "m" (fun _ => .done "inner") (.done "outer"))
    (.recover (.source "b" "n" (fun _ => .source "b" "n" (fun _ => .done "kept") (.fail .tooDeep))
      (.done "")) fun _ => .source "b" "n" (fun _ => .done "late") (.done ""))

/-- Sources are written with a line break at their end. -/
def lineSetup : Setup FileState := separateRoots.setup ".py" (· ++ "\n") fun _ _ => none

/-- A pass over an empty disk. -/
def emptyPass : Pass FileState Unit := .start (.start .fresh) [] ()

/-- The moves of the two calls, in the order in which they are made. -/
def reentrantMoves : List (Move Unit) :=
  [.requestSource ⟨"a", "m"⟩, .requestSource ⟨"a", "m"⟩, .settleSource ⟨"a", "m"⟩ "inner",
    .settleSource ⟨"a", "m"⟩ "outer", .requestSource ⟨"b", "n"⟩, .requestSource ⟨"b", "n"⟩,
    .settleSource ⟨"b", "n"⟩ "kept", .dropSource ⟨"b", "n"⟩ .tooDeep, .requestSource ⟨"b", "n"⟩,
    .settleSource ⟨"b", "n"⟩ "late"]

/-- What settling the inner body comes to. -/
def innerSettled : Except Failure Unit × Pass FileState Unit :=
  (.settleSource ⟨"a", "m"⟩ "inner" : Move Unit).run lineSetup
    (Move.play lineSetup (reentrantMoves.take 2) emptyPass)

/-- The inner body is the first one that renders, and the body that fails leaves its source to the
one inside of it. Each commits its own text, and the files hold what is made of it. -/
theorem inner_bodies_commit :
    reentrantSources.moves lineSetup emptyPass = reentrantMoves ∧
      Move.Along lineSetup (fun pass move => Move.writesOrExists separateRoots ".py" (· ++ "\n") pass
        move = true) (reentrantSources.moves lineSetup emptyPass) emptyPass ∧
      Move.Commits separateRoots ".py" (· ++ "\n") ⟨"a", "m"⟩ "inner"
        (Move.play lineSetup (reentrantMoves.take 2) emptyPass) innerSettled.1 innerSettled.2 ∧
      (∃ artifact, (reentrantSources.run lineSetup emptyPass).2.sourceAt ⟨"a", "m"⟩ =
        ⟨"inner", some artifact⟩) ∧
      (∃ artifact, (reentrantSources.run lineSetup emptyPass).2.sourceAt ⟨"b", "n"⟩ =
        ⟨"kept", some artifact⟩) ∧
      (reentrantSources.run lineSetup emptyPass).2.outlet.state.written =
        [.ofString "src/a/m.py", .ofString "src/b/n.py"] ∧
      (reentrantSources.run lineSetup emptyPass).2.outlet.state.disk.readFile
        (.ofString "src/a/m.py") = .ok "inner\n".toUTF8 ∧
      (reentrantSources.run lineSetup emptyPass).2.outlet.state.disk.readFile
        (.ofString "src/b/n.py") = .ok "kept\n".toUTF8 := by
  have moves : reentrantSources.moves lineSetup emptyPass = reentrantMoves := by decide +kernel
  have safe : Move.Along lineSetup (fun pass move => Move.writesOrExists separateRoots ".py"
      (· ++ "\n") pass move = true) (reentrantSources.moves lineSetup emptyPass) emptyPass := by
    decide +kernel
  have first := first_body_commits separateRoots ".py" (· ++ "\n") (fun _ _ => none)
    reentrantSources (.start .fresh) [] ()
  -- The conditions hold, so both sources stand as they were settled first.
  have last := first safe
  have settled := last.2.1
  -- No source is settled before the third move, so this one commits.
  have step := last.2.2 (reentrantMoves.take 2) (.settleSource ⟨"a", "m"⟩ "inner")
    (reentrantMoves.drop 3) moves
  refine ⟨moves, safe, step.commits rfl, settled.committed ?_, settled.committed ?_, ?_, ?_, ?_⟩
  all_goals decide +kernel

end Script

end Stencil
