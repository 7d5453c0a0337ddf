import Mathlib.Logic.ExistsUnique
import Stencil.Proofs.Pass.Returned
import Stencil.Proofs.Script.Alike
import Stencil.Proofs.Sink.Block
import Stencil.Sink.Scripted

/-! The outcome of committing a source on any sink: it is written, or settled with what stands at its
destination already, or it fails and stays as it was. -/

namespace Stencil

open Attempt

variable {σ μ : Type}

namespace SourceTarget

/-- The three ways in which committing a formatted text can end. -/
inductive Ending where
  | written
  | settled
  | failed
deriving DecidableEq, Repr

end SourceTarget

namespace Pass

open SourceTarget

/-- What committing a source with a formatted text comes to, with the calls that its sink receives.
The two ways of settling it end alike. -/
inductive Ends (setup : Setup σ) (key : TargetKey) (text : String) (pass : Pass σ μ) :
    Ending → Except Failure Unit → Pass σ μ → List SinkEvent → Prop where
  /-- The text was written: the artifact is fresh, and nothing is reported or read. -/
  | written {state : σ} {log : List LogRecord} {calls : List SinkEvent}
      (block : setup.sink.WriteBlock .sources key.package (key.name ++ setup.style.suffix) text
        pass.outlet.state (.ok ()) state calls) :
      Ends setup key text pass .written (.ok ())
        { pass with
          outlet := ⟨state, pass.outlet.diagnostics, log⟩
          sources := pass.sources.put key
            ⟨(pass.sourceAt key).content, some ⟨key, .source, false, false⟩⟩ }
        calls
  /-- The destination exists and holds the text: a warning is reported. -/
  | regenerated {failure : Failure} {refused state : σ} {log : List LogRecord}
      {calls more : List SinkEvent}
      (block : setup.sink.WriteBlock .sources key.package (key.name ++ setup.style.suffix) text
        pass.outlet.state (.error failure) refused calls)
      (occupied : failure.kind = .destinationExists)
      (held : setup.sink.ReadBlock .sources ""
        (key.packagePath ++ (key.name ++ setup.style.suffix)) refused (.ok text) state more) :
      Ends setup key text pass .settled (.ok ())
        { pass with
          outlet := ⟨state, pass.outlet.diagnostics ++ [regeneratedDiagnostic key], log⟩
          sources := pass.sources.put key
            ⟨(pass.sourceAt key).content, some ⟨key, .source, true, false⟩⟩ }
        (calls ++ more)
  /-- The destination exists and holds another text, or cannot be read: an error is reported. -/
  | collided {failure : Failure} {answer : Except Failure String} {refused state : σ}
      {log : List LogRecord} {calls more : List SinkEvent}
      (block : setup.sink.WriteBlock .sources key.package (key.name ++ setup.style.suffix) text
        pass.outlet.state (.error failure) refused calls)
      (occupied : failure.kind = .destinationExists)
      (held : setup.sink.ReadBlock .sources ""
        (key.packagePath ++ (key.name ++ setup.style.suffix)) refused answer state more)
      (other : answer ≠ .ok text) :
      Ends setup key text pass .settled (.ok ())
        { pass with
          outlet := ⟨state, pass.outlet.diagnostics ++ [overwriteDiagnostic key failure], log⟩
          sources := pass.sources.put key
            ⟨(pass.sourceAt key).content, some ⟨key, .source, false, true⟩⟩ }
        (calls ++ more)
  /-- Writing failed for another reason: a failure of the system is named as the origin of a failure
  of this source, and any other one is passed on. Nothing is reported, and no target changes. -/
  | failed {failure : Failure} {state : σ} {log : List LogRecord} {calls : List SinkEvent}
      (block : setup.sink.WriteBlock .sources key.package (key.name ++ setup.style.suffix) text
        pass.outlet.state (.error failure) state calls)
      (unrelated : failure.kind ≠ .destinationExists) :
      Ends setup key text pass .failed
        (.error (if failure.kind.isSystem then .sourceNotWritten key failure.kind else failure))
        { pass with outlet := ⟨state, pass.outlet.diagnostics, log⟩ } calls

/-- A failure that says nothing about the destination ends the commit: one of the system is named as
the origin of a failure of this source, and any other one is passed on. -/
theorem emit_of_failed {sink : Sink σ} {key : TargetKey} {fileName text : String}
    {outlet refused : Outlet σ} {failure : Failure}
    (wrote : sink.writeTo .sources key.package fileName [text] outlet = (.error failure, refused))
    (unrelated : failure.kind ≠ .destinationExists) :
    emit sink key fileName text outlet =
      (.error (if failure.kind.isSystem then .sourceNotWritten key failure.kind else failure),
        refused) := by
  by_cases system : failure.kind.isSystem = true
  · simp [emit, bind_apply, wrote, unrelated, system]
  · simp [emit, bind_apply, wrote, unrelated, system]

/-- Committing a source whose text can be formatted comes to one of the endings. -/
theorem exists_ends (setup : Setup σ) {key : TargetKey} {text : String} {pass : Pass σ μ}
    (uncommitted : (pass.sourceAt key).committed = false)
    (formatted : setup.style.formatter (pass.sourceAt key).content = .ok text) :
    ∃ ending calls, Ends setup key text pass ending (completeSource setup key pass).1
      (completeSource setup key pass).2 calls := by
  obtain ⟨log, completed⟩ :=
    complete_apply setup.sink setup.style key uncommitted pass.outlet
  simp only [formatted] at completed
  -- The block that writes the text decides whether there is a second one that reads.
  obtain ⟨result, state, noted, calls, wrote, block⟩ := setup.sink.writeTo_block .sources
    key.package (key.name ++ setup.style.suffix) text pass.outlet
  have emission := emit_emission setup.sink key (key.name ++ setup.style.suffix) text pass.outlet
  rw [completeSource_apply, completed]
  rcases emitted : emit setup.sink key (key.name ++ setup.style.suffix) text pass.outlet with
    ⟨answer, outlet⟩
  rw [emitted] at emission
  cases emission with
  -- A text that is written needs no second block.
  | fresh done =>
    cases wrote.symm.trans done
    exact ⟨.written, calls, .written block⟩
  -- The block that reads follows the one that was refused.
  | regenerated done occupied held =>
    cases wrote.symm.trans done
    obtain ⟨answer, after, more, read, reading⟩ := setup.sink.readFrom_block .sources ""
      (key.packagePath ++ (key.name ++ setup.style.suffix)) ⟨state, pass.outlet.diagnostics, noted⟩
    cases read.symm.trans held
    exact ⟨.settled, calls ++ more, .regenerated block occupied reading⟩
  | collided done occupied held other =>
    cases wrote.symm.trans done
    obtain ⟨answer, after, more, read, reading⟩ := setup.sink.readFrom_block .sources ""
      (key.packagePath ++ (key.name ++ setup.style.suffix)) ⟨state, pass.outlet.diagnostics, noted⟩
    cases read.symm.trans held
    exact ⟨.settled, calls ++ more, .collided block occupied reading other⟩
  | failed done unrelated =>
    cases wrote.symm.trans done
    -- What is shown for the failure depends on its kind alone.
    cases emitted.symm.trans (emit_of_failed wrote unrelated)
    exact ⟨.failed, calls, .failed block unrelated⟩

/-- The ending to which a writing block leads: a failure counts as one only if it does not say that
the destination exists. -/
def endingOf : Except Failure Unit → Ending
  | .ok _ => .written
  | .error failure => if failure.kind = .destinationExists then .settled else .failed

/-- The writing block alone decides which ending a commit has. -/
theorem Ends.writing {setup : Setup σ} {key : TargetKey} {text : String} {pass after : Pass σ μ}
    {ending : Ending} {result : Except Failure Unit} {calls : List SinkEvent}
    (ends : Ends setup key text pass ending result after calls) :
    ∃ answer state events, setup.sink.WriteBlock .sources key.package
      (key.name ++ setup.style.suffix) text pass.outlet.state answer state events ∧
        ending = endingOf answer := by
  -- Each ending begins with its writing block.
  cases ends with
  | written block => exact ⟨_, _, _, block, rfl⟩
  | regenerated block occupied held => exact ⟨_, _, _, block, by simp [endingOf, occupied]⟩
  | collided block occupied held other => exact ⟨_, _, _, block, by simp [endingOf, occupied]⟩
  | failed block unrelated => exact ⟨_, _, _, block, by simp [endingOf, unrelated]⟩

/-- A commit has one ending only. -/
theorem Ends.unique {setup : Setup σ} {key : TargetKey} {text : String}
    {pass after other : Pass σ μ} {ending another : Ending} {result answer : Except Failure Unit}
    {calls more : List SinkEvent} (first : Ends setup key text pass ending result after calls)
    (second : Ends setup key text pass another answer other more) : another = ending := by
  -- Both writing blocks are the same, as a block comes to one thing only.
  obtain ⟨_, _, _, here, rfl⟩ := first.writing
  obtain ⟨_, _, _, there, rfl⟩ := second.writing
  rw [(here.unique there).1]

/-- An ending on a watched pass is one on the pass itself, and its calls are those that the sink
received. -/
theorem Ends.unwatched {setup : Setup σ} {key : TargetKey} {text : String}
    {pass after : Pass (Watched σ) μ} {ending : Ending} {result : Except Failure Unit}
    {calls : List SinkEvent} (ends : Ends setup.watched key text pass ending result after calls) :
    Ends setup key text pass.unwatched ending result after.unwatched calls ∧
      after.outlet.state.events = pass.outlet.state.events ++ calls := by
  -- Each block of the watched sink is one of the sink.
  cases ends with
  | written block =>
    obtain ⟨plain, listed⟩ := block.unwatched
    exact ⟨.written plain, listed⟩
  | regenerated block occupied held =>
    obtain ⟨plain, listed⟩ := block.unwatched
    obtain ⟨reading, behind⟩ := held.unwatched
    exact ⟨.regenerated plain occupied reading, by simp [behind, listed]⟩
  | collided block occupied held other =>
    obtain ⟨plain, listed⟩ := block.unwatched
    obtain ⟨reading, behind⟩ := held.unwatched
    exact ⟨.collided plain occupied reading other, by simp [behind, listed]⟩
  | failed block unrelated =>
    obtain ⟨plain, listed⟩ := block.unwatched
    exact ⟨.failed plain unrelated, listed⟩

/-- A source that is committed refuses text and a second commit, and neither changes anything. -/
structure Refuses (setup : Setup σ) (key : TargetKey) (pass : Pass σ μ) : Prop where
  append : ∀ text, appendSource key text pass = (.error (.closed (.source key)), pass)
  complete : completeSource setup key pass = (.error (.closed (.source key)), pass)

/-- A committed source refuses whatever comes later. -/
theorem refuses_of_committed (setup : Setup σ) {key : TargetKey} {pass : Pass σ μ}
    (committed : (pass.sourceAt key).committed = true) : Refuses setup key pass where
  append text := by simp [appendSource_apply, committed]
  complete := by
    -- Both operations look at the artifact first.
    have stopped : (pass.sourceAt key).complete setup.sink setup.style key pass.outlet =
        (.error (.closed (.source key)), pass.outlet) := by
      simp [SourceTarget.complete, committed, bind_apply]
    rw [completeSource_apply, stopped]

/-- A text that its formatter refuses is not written, and the failure is passed on. -/
theorem complete_unformatted (setup : Setup σ) {key : TargetKey} {pass : Pass σ μ} {failure : Failure}
    (uncommitted : (pass.sourceAt key).committed = false)
    (refused : setup.style.formatter (pass.sourceAt key).content = .error failure) :
    completeSource setup key pass = (.error failure, pass) := by
  -- The formatter is asked before the sink is.
  obtain ⟨log, completed⟩ :=
    complete_apply setup.sink setup.style key uncommitted pass.outlet
  simp only [refused] at completed
  rw [completeSource_apply, completed]

/-- A commit that succeeds leaves its source committed. -/
theorem Ends.committed {setup : Setup σ} {key : TargetKey} {text : String} {pass after : Pass σ μ}
    {ending : Ending} {calls : List SinkEvent}
    (ends : Ends setup key text pass ending (.ok ()) after calls) :
    (after.sourceAt key).committed = true := by
  -- Each of the three endings that succeed stores a target with an artifact.
  cases ends with
  | written block => rw [sourceAt_put rfl, if_pos rfl]; rfl
  | regenerated block occupied held => rw [sourceAt_put rfl, if_pos rfl]; rfl
  | collided block occupied held other => rw [sourceAt_put rfl, if_pos rfl]; rfl

/-- Committing a source that is not committed, on any sink. Where its formatter refuses the text, the
failure is passed on and the sink receives no call. Otherwise the commit has exactly one of the three
endings. Once it has succeeded, the source stays as it is, and refuses every text and every further
commit without a call of the sink. -/
theorem commit_has_one_ending (setup : Setup σ) (key : TargetKey) (pass : Pass σ μ)
    (uncommitted : (pass.sourceAt key).committed = false) :
    let commit := completeSource setup key pass
    let watched := completeSource setup.watched key pass.watched
    let calls := watched.2.outlet.state.events
    (watched.1 = commit.1 ∧ watched.2.unwatched = commit.2) ∧
      (∀ failure, setup.style.formatter (pass.sourceAt key).content = .error failure →
        commit = (.error failure, pass) ∧ calls = []) ∧
      (∀ text, setup.style.formatter (pass.sourceAt key).content = .ok text →
        ∃! ending, Ends setup key text pass ending commit.1 commit.2 calls) ∧
      (commit.1 = .ok () →
        (∀ moves, (Move.play setup moves commit.2).sourceAt key = commit.2.sourceAt key) ∧
        ∀ later : Pass σ μ, later.sourceAt key = commit.2.sourceAt key →
          Refuses setup key later ∧ Refuses setup.watched key later.watched) := by
  intro commit watched calls
  -- The watched pass comes to what the pass comes to.
  have mirrors := mirrors_watched (completeSource_mirrors setup.watched_alike key)
    (unwatched_watched pass)
  have ends : ∀ text, setup.style.formatter (pass.sourceAt key).content = .ok text →
      ∃ ending, Ends setup key text pass ending commit.1 commit.2 calls := by
    intro text formatted
    -- The watched commit has an ending, and the commit itself has it without the watch.
    obtain ⟨ending, more, ends⟩ :=
      @exists_ends (Watched σ) μ setup.watched key text pass.watched uncommitted formatted
    obtain ⟨plain, listed⟩ := ends.unwatched
    refine ⟨ending, ?_⟩
    have all : calls = more := listed
    rw [all, ← mirrors.1, ← mirrors.2]
    exact plain
  refine ⟨mirrors, ?_, ?_, ?_⟩
  · intro failure refused
    -- Without a formatted text, neither pass reaches its sink.
    have stopped : commit = (.error failure, pass) :=
      complete_unformatted setup uncommitted refused
    have silent : watched = (.error failure, pass.watched) :=
      @complete_unformatted (Watched σ) μ setup.watched key pass.watched failure uncommitted refused
    exact ⟨stopped, by simp only [calls, silent]; rfl⟩
  · intro text formatted
    obtain ⟨ending, here⟩ := ends text formatted
    -- The calls of the sink fix the ending.
    exact ⟨ending, here, fun other there => here.unique there⟩
  · intro succeeded
    -- A commit that succeeds has formatted its text and ended well.
    have committed : (commit.2.sourceAt key).committed = true := by
      cases formatted : setup.style.formatter (pass.sourceAt key).content with
      | error failure =>
        have failed : commit.1 = .error failure := by
          simp only [commit, complete_unformatted setup uncommitted formatted]
        cases failed.symm.trans succeeded
      | ok text =>
        obtain ⟨ending, here⟩ := ends text formatted
        rw [succeeded] at here
        exact here.committed
    -- From then on, no move changes the source.
    refine ⟨fun moves => Move.play_keeps_committed moves committed, ?_⟩
    intro later same
    have still : (later.sourceAt key).committed = true := by rw [same, committed]
    exact ⟨refuses_of_committed setup still, refuses_of_committed setup.watched still⟩

/-- A sink on which every destination exists and nothing can be read. -/
def unreadableSetup : Setup ScriptedState :=
  ⟨(SinkScript.mk (some (.occupied (.thisPass (.ofString "a/m.py"))))
    (.error (.raised (.other "RuntimeError") "gone"))).sink,
    ⟨".py", .ok⟩, fun _ _ => none⟩

/-- Where the text at an existing destination cannot be read, the source is settled as collided: one
error is reported, and nothing fails. -/
theorem unreadable_source_collides :
    let pass : Pass ScriptedState Unit := .start ⟨[], ""⟩ [] ()
    let key : TargetKey := ⟨"a", "m"⟩
    let commit := completeSource unreadableSetup key pass
    let calls := (completeSource unreadableSetup.watched key pass.watched).2.outlet.state.events
    (pass.sourceAt key).committed = false ∧
      commit.1 = .ok () ∧ commit.2.artifacts = [⟨key, .source, false, true⟩] ∧
      commit.2.outlet.diagnostics =
        [overwriteDiagnostic key (.occupied (.thisPass (.ofString "a/m.py")))] ∧
      calls = [.openWrite .sources "a" "m.py", .openRead .sources "" "a/m.py"] ∧
      ∃! ending, Ends unreadableSetup key "" pass ending commit.1 commit.2 calls := by
  intro pass key commit calls
  have uncommitted : (pass.sourceAt key).committed = false := rfl
  -- All but the last part is computed.
  refine ⟨uncommitted, by decide +kernel, by decide +kernel, by decide +kernel,
    by decide +kernel, ?_⟩
  exact (commit_has_one_ending unreadableSetup key pass uncommitted).2.2.1 "" rfl

end Pass

end Stencil
