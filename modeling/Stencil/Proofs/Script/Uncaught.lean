import Stencil.Proofs.Script.Moves

/-! Scripts that recover from no failure: if such a script succeeds, then so did every move that it has
made. -/

namespace Stencil

open Attempt

variable {σ μ α β : Type}

/-- Tests for the scripts that recover from no failure. -/
def Script.Uncaught : Script μ → Prop
  | .done _ => True
  | .fail _ => True
  | .source _ _ body next => (∀ call, Uncaught (body call)) ∧ Uncaught next
  | .service _ body next => (∀ call, Uncaught (body call)) ∧ Uncaught next
  | .error _ next => Uncaught next
  | .system _ next => Uncaught next
  | .trim body next => (∀ call, Uncaught (body call)) ∧ ∀ text, Uncaught (next text)
  | .collapsible body next => (∀ call, Uncaught (body call)) ∧ ∀ text, Uncaught (next text)
  | .linesShortable body _ next => (∀ call, Uncaught (body call)) ∧ ∀ text, Uncaught (next text)
  | .finalize next => Uncaught next
  | .recover _ _ => False
  | .look _ next => ∀ content, Uncaught (next content)
  | .remembered next => ∀ memory, Uncaught (next memory)
  | .remember _ next => Uncaught next

/-- The moves of a record led smoothly from a pass to the pass of the record. -/
def Recorded.SmoothFrom (setup : Setup σ) (pass : Pass σ μ) (recorded : Recorded σ μ) : Prop :=
  recorded.pass = Move.play setup recorded.moves pass ∧ Move.Smooth setup recorded.moves pass

/-- An attempt on records goes on smoothly wherever it succeeds. -/
def GoesSmoothly (setup : Setup σ) (pass : Pass σ μ) (attempt : Attempt (Recorded σ μ) α) : Prop :=
  ∀ ⦃before after value⦄, before.SmoothFrom setup pass → attempt before = (.ok value, after) →
    after.SmoothFrom setup pass

namespace GoesSmoothly

variable {setup : Setup σ} {pass : Pass σ μ}

/-- What changes nothing goes on smoothly. -/
theorem answer (result : Except Failure α) :
    GoesSmoothly setup pass (.ofExcept result : Attempt (Recorded σ μ) α) := by
  intro before after value smooth done
  cases done
  exact smooth

/-- A sequence goes on smoothly if both of its parts do. -/
theorem bind {attempt : Attempt (Recorded σ μ) α} {next : α → Attempt (Recorded σ μ) β}
    (here : GoesSmoothly setup pass attempt) (there : ∀ value, GoesSmoothly setup pass (next value)) :
    GoesSmoothly setup pass (attempt >>= next) := by
  intro before last value smooth done
  obtain ⟨middle, between, first, second⟩ := bind_eq_ok.1 done
  exact there middle (here smooth first) second

/-- A move that succeeds goes on smoothly. -/
theorem act (move : Move μ) : GoesSmoothly setup pass (setup.recorder.act move) := by
  -- Nothing that succeeds can have failed before, so the record is extended by a smooth move.
  rintro before after value ⟨played, smooth⟩ done
  rw [Setup.recorder_act, Prod.mk.injEq] at done
  obtain ⟨succeeds, rfl⟩ := done
  rw [played] at succeeds
  refine ⟨?_, Move.smooth_concat.2 ⟨smooth, succeeds⟩⟩
  show (move.run setup before.pass).2 = Move.play setup (before.moves ++ [move]) pass
  rw [Move.play_concat, ← played]

/-- A body goes on smoothly into what ends its call, if the call fails for each failure of the body. -/
theorem call {body : Attempt (Recorded σ μ) String}
    {ends : Except Failure String → Attempt (Recorded σ μ) Unit}
    (inner : GoesSmoothly setup pass body) (settles : ∀ text, GoesSmoothly setup pass (ends (.ok text)))
    (drops : ∀ failure before, (ends (.error failure) before).1 ≠ .ok ()) :
    GoesSmoothly setup pass (body.outcome >>= ends) := by
  intro before last value smooth done
  obtain ⟨answer, between, rendered, ending⟩ := bind_eq_ok.1 done
  rw [outcome_apply] at rendered
  rcases outcome : body before with ⟨failure | text, middle⟩
  -- The call has failed with its body, and so it has not succeeded.
  · rw [outcome] at rendered
    cases rendered
    exact absurd (congrArg Prod.fst ending) (drops failure _)
  · rw [outcome] at rendered
    cases rendered
    exact settles text (inner smooth outcome) ending

/-- A call that writes a source goes on smoothly if its body does. -/
theorem source (key : TargetKey) {body : Attempt (Recorded σ μ) String}
    (inner : GoesSmoothly setup pass body) :
    GoesSmoothly setup pass (setup.recorder.source key body) :=
  (act (.requestSource key)).bind fun _ =>
    call inner (fun text => act (.settleSource key text)) fun _ _ => by
      simp [Setup.recorder_act, Move.run, stop]

/-- A call that contributes to a service goes on smoothly if its body does. -/
theorem service (interface : String) {body : Attempt (Recorded σ μ) String}
    (inner : GoesSmoothly setup pass body) :
    GoesSmoothly setup pass (setup.recorder.service interface body) :=
  (act (.requestService interface)).bind fun _ =>
    call inner (fun text => act (.contribute interface text)) fun _ _ => by
      simp [Setup.recorder_act, Move.run, stop]

/-- A script that recovers from no failure goes on smoothly. -/
theorem interpret {script : Script μ} (uncaught : script.Uncaught) :
    GoesSmoothly setup pass (script.interpret setup.recorder) := by
  -- A script is put together from calls and bodies, and it ends at the first one that fails.
  induction script with
  | done text => exact answer (.ok text)
  | fail failure => exact answer (.error failure)
  | source package name body next bodies rest =>
    -- A body is rendered at least once, and what comes behind goes on from there.
    exact (source _ (bodies 0 (uncaught.1 0))).bind fun _ => rest uncaught.2
  | service interface body next bodies rest =>
    exact (service _ (bodies 0 (uncaught.1 0))).bind fun _ => rest uncaught.2
  | error message next rest => exact (act _).bind fun _ => rest uncaught
  | system message next rest => exact (act _).bind fun _ => rest uncaught
  | trim body next bodies rest =>
    exact ((bodies 0 (uncaught.1 0)).bind fun _ => answer (.ok _)).bind
      fun text => rest text (uncaught.2 text)
  | collapsible body next bodies rest =>
    refine ((bodies 0 (uncaught.1 0)).bind fun first => ?_).bind
      fun text => rest text (uncaught.2 text)
    -- The second rendering takes place only for a text that is not blank.
    split
    · exact answer (.ok "")
    · exact bodies 1 (uncaught.1 1)
  | linesShortable body width next bodies rest =>
    -- Here the second rendering takes place where the words of the first do not fit.
    refine ((bodies 0 (uncaught.1 0)).bind fun first => (answer width).bind fun _ => ?_).bind
      fun text => rest text (uncaught.2 text)
    split
    · exact answer (.ok _)
    · exact bodies 1 (uncaught.1 1)
  | finalize next rest => exact (act _).bind fun _ => rest uncaught
  | recover body next inner rest => exact uncaught.elim
  | look path next rest =>
    -- Looking at a file or at what is remembered is no move.
    intro before after value smooth done
    exact rest _ (uncaught _) smooth done
  | remembered next rest =>
    intro before after value smooth done
    exact rest _ (uncaught _) smooth done
  | remember memory next rest => exact (act _).bind fun _ => rest uncaught

end GoesSmoothly

/-- If a script that recovers from no failure succeeds, all its moves have succeeded. -/
theorem Script.Uncaught.smooth {setup : Setup σ} {script : Script μ} (uncaught : script.Uncaught)
    {pass after : Pass σ μ} {text : String} (done : script.run setup pass = (.ok text, after)) :
    Move.Smooth setup (script.moves setup pass) pass := by
  -- The record begins empty, which is smooth.
  have recorded := script.recorded setup pass
  rw [done] at recorded
  have begun : Recorded.SmoothFrom setup pass ⟨pass, []⟩ := ⟨rfl, trivial⟩
  exact (GoesSmoothly.interpret uncaught begun recorded).2

end Stencil
