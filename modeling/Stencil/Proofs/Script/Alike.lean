import Stencil.Proofs.Pass.Alike
import Stencil.Proofs.Script.Follow

/-! Scripts on setups that are alike: each move mirrors itself, and so does every script. A watched
setup is like the setup itself, so a script does on it what it does without being watched. -/

namespace Stencil

open Attempt

section Alike

variable {σ υ μ : Type} {related : Outlet σ → Outlet υ → Prop} {first : Setup σ} {second : Setup υ}

/-- On setups that are alike, each move mirrors itself. -/
theorem Move.run_mirrors (alike : Setup.Alike related first second) (move : Move μ) :
    Mirrors (Pass.Agree related) (move.run first) (move.run second) := by
  cases move with
  | requestSource key => exact (Pass.requestSource_mirrors alike _ _).bind fun _ => .same (.ok ())
  | settleSource key text => exact Pass.settleSource_mirrors alike key text
  | requestService interface =>
    exact (Pass.requestService_mirrors alike _ _).bind fun _ => .same (.ok ())
  | contribute interface text => exact Pass.appendService_mirrors (Pass.serviceKey interface) text
  -- A body that failed leaves the pass as it is.
  | dropSource key failure => exact .same (.error failure)
  | dropService interface failure => exact .same (.error failure)
  | error message =>
    have reports : Mirrors (Pass.Agree (μ := μ) related) (Pass.error message)
        (Pass.error message) :=
      (Pass.onOutlet_mirrors (alike.report .error (strip message))).bind fun _ => .same (.ok "")
    exact reports.bind fun _ => .same (.ok ())
  | system message =>
    -- Printing is about the console alone.
    have prints : Mirrors (Pass.Agree (μ := μ) related) (Pass.system message)
        (Pass.system message) :=
      (Mirrors.change fun (pass : Pass σ μ) (other : Pass υ μ) agree =>
        { agree with console := by rw [agree.console] }).bind fun _ => .same (.ok "")
    exact prints.bind fun _ => .same (.ok ())
  | finalize => exact (Pass.finalize_mirrors alike).bind fun _ => .same (.ok ())
  | remember memory => exact Mirrors.change fun _ _ agree => { agree with memory := rfl }

/-- On setups that are alike, each script mirrors itself. -/
theorem Script.run_mirrors (alike : Setup.Alike related first second) (script : Script μ) :
    Mirrors (Pass.Agree related) (script.run first) (script.run second) := by
  -- A script is put together from moves.
  rw [run_eq_interpret, run_eq_interpret]
  exact interpret_follows (fun move => Move.run_mirrors alike move)
    (fun _ _ agree => agree.memory.symm)
    (fun path _ _ agree => alike.look path _ _ agree.outlet) script

end Alike

variable {σ μ α : Type}

/-- The same setup, with a sink that lists the calls it receives. -/
def Setup.watched (setup : Setup σ) : Setup (Watched σ) :=
  ⟨setup.sink.watched, setup.style, fun path watched => setup.look path watched.state⟩

/-- A watched setup is like the setup itself. -/
theorem Setup.watched_alike (setup : Setup σ) :
    Setup.Alike Outlet.Watches setup setup.watched where
  style := rfl
  look path outlet other watches := by
    cases watches
    rfl
  note := Outlet.note_mirrors
  report := Outlet.report_mirrors
  write := setup.sink.writeTo_mirrors
  read := setup.sink.readFrom_mirrors

namespace Pass

/-- A pass whose sink is watched from now on. -/
def watched (pass : Pass σ μ) : Pass (Watched σ) μ :=
  { pass with outlet := ⟨.start pass.outlet.state, pass.outlet.diagnostics, pass.outlet.log⟩ }

/-- A watched pass, without the list of the calls that its sink received. -/
def unwatched (pass : Pass (Watched σ) μ) : Pass σ μ := { pass with outlet := pass.outlet.unwatched }

/-- Watching a pass changes nothing about it. -/
theorem unwatched_watched (pass : Pass σ μ) : pass.watched.unwatched = pass := rfl

/-- A watched pass agrees with the pass that is watched, and with no other one. -/
theorem agree_watches_iff {pass : Pass σ μ} {other : Pass (Watched σ) μ} :
    Agree Outlet.Watches pass other ↔ other.unwatched = pass := by
  constructor
  -- All parts but the outlet are the same, and the outlet is watched.
  · intro agree
    obtain ⟨outlet, console, sources, services, finalized, memory⟩ := agree
    cases pass
    simp only [unwatched, Outlet.Watches] at *
    simp [outlet, console, sources, services, finalized, memory]
  · intro same
    subst same
    exact ⟨rfl, rfl, rfl, rfl, rfl, rfl⟩

/-- What mirrors an attempt on a watched pass does on it what the attempt does on the pass. -/
theorem mirrors_watched {leader : Attempt (Pass σ μ) α} {follower : Attempt (Pass (Watched σ) μ) α}
    (mirrors : Mirrors (Agree Outlet.Watches) leader follower) {pass : Pass σ μ}
    {other : Pass (Watched σ) μ} (same : other.unwatched = pass) :
    (follower other).1 = (leader pass).1 ∧ (follower other).2.unwatched = (leader pass).2 := by
  obtain ⟨answer, along⟩ := mirrors.agree (agree_watches_iff.2 same)
  exact ⟨answer, agree_watches_iff.1 along⟩

end Pass

end Stencil
