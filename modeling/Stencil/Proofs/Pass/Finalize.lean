import Stencil.Proofs.Pass.Operations
import Stencil.Proofs.Target.Service

/-! Laws of closing a pass, on any sink: it commits the services and leaves the sources alone. -/

namespace Stencil

namespace Pass

open Attempt

variable {σ μ : Type}

/-- A later pass differs from an earlier one in its services and in what the sink and the log
hold. -/
structure OnlyServices (before after : Pass σ μ) : Prop where
  sources : after.sources = before.sources
  finalized : after.finalized = before.finalized
  memory : after.memory = before.memory
  diagnostics : after.outlet.diagnostics = before.outlet.diagnostics

/-- What two steps leave alone, both together leave alone. -/
theorem OnlyServices.trans (first second third : Pass σ μ) (left : OnlyServices first second)
    (right : OnlyServices second third) : OnlyServices first third :=
  ⟨right.sources.trans left.sources, right.finalized.trans left.finalized,
    right.memory.trans left.memory, right.diagnostics.trans left.diagnostics⟩

/-- Committing a service stores the target that it leaves behind, unless it fails. -/
theorem completeService_apply (setup : Setup σ) (key : TargetKey) (pass : Pass σ μ) :
    completeService setup key pass =
      match (pass.serviceAt key).complete setup.sink key pass.outlet with
      | (.error failure, outlet) => (.error failure, { pass with outlet })
      | (.ok target, outlet) =>
        (.ok (), { pass with outlet, services := pass.services.put key target }) := by
  -- Where the commit fails, nothing is stored.
  unfold completeService
  simp only [bind_apply, state_apply, onOutlet_apply]
  rcases (pass.serviceAt key).complete setup.sink key pass.outlet with
    ⟨failure | target, outlet⟩ <;> rfl

/-- Committing services leaves the rest of the pass alone. -/
theorem completeServices_within (setup : Setup σ) (keys : List TargetKey) :
    Within OnlyServices (completeServices setup keys : Attempt (Pass σ μ) Unit) := by
  -- Each key is one such step, and the first failure ends the row.
  induction keys with
  | nil => exact fun _ => ⟨rfl, rfl, rfl, rfl⟩
  | cons key rest ih =>
    refine Within.bind OnlyServices.trans ?_ fun _ => ih
    intro pass
    have silent := ServiceTarget.complete_silent setup.sink key (pass.serviceAt key) pass.outlet
    rw [completeService_apply]
    generalize (pass.serviceAt key).complete setup.sink key pass.outlet = answer at silent ⊢
    obtain ⟨failure | target, outlet⟩ := answer
    · exact ⟨rfl, rfl, rfl, silent⟩
    · exact ⟨rfl, rfl, rfl, silent⟩

/-- What closing a pass can come to. -/
inductive Closing (setup : Setup σ) (pass : Pass σ μ) :
    Except Failure (List Artifact) → Pass σ μ → Prop where
  /-- A pass is closed only once. -/
  | refused (closed : pass.finalized = true) : Closing setup pass (.error (.closed .pass)) pass
  /-- The services are committed in the order of their requests, up to one that fails. -/
  | failed {failure : Failure} {after : Pass σ μ} (opened : pass.finalized = false)
      (committed : completeServices setup pass.services.keys { pass with finalized := true } =
        (.error failure, after))
      (only : OnlyServices { pass with finalized := true } after) :
      Closing setup pass (.error failure) after
  /-- All services are committed, and the artifacts of the pass are its answer. -/
  | closed {after : Pass σ μ} {log : List LogRecord} (opened : pass.finalized = false)
      (committed : completeServices setup pass.services.keys { pass with finalized := true } =
        (.ok (), after))
      (only : OnlyServices { pass with finalized := true } after) :
      Closing setup pass (.ok after.artifacts)
        { after with outlet := { after.outlet with log } }

/-- Closing a pass comes to one of the three. -/
theorem finalize_closing (setup : Setup σ) (pass : Pass σ μ) :
    Closing setup pass (finalize setup pass).1 (finalize setup pass).2 := by
  -- The pass counts as closed before the first of its services is committed.
  have only := completeServices_within setup pass.services.keys { pass with finalized := true }
  unfold finalize
  cases closed : pass.finalized with
  -- A closed pass refuses to be closed again.
  | true =>
    simp only [checkOpen, bind_apply, closed, if_true]
    exact .refused closed
  | false =>
    simp only [checkOpen, bind_apply, change_apply, state_apply, closed, Bool.false_eq_true,
      if_false]
    rcases committed : completeServices setup pass.services.keys { pass with finalized := true } with
      ⟨failure | _, after⟩
    · rw [committed] at only
      simp only
      exact .failed closed committed only
    · rw [committed] at only
      simp only
      exact .closed closed committed only

/-- What closing a pass came to is one of the three. -/
theorem closing_of_finalize {setup : Setup σ} {pass after : Pass σ μ}
    {result : Except Failure (List Artifact)} (done : finalize setup pass = (result, after)) :
    Closing setup pass result after := by
  -- Closing has one outcome, so its equation fixes which of them it is.
  have closing := finalize_closing setup pass
  rw [done] at closing
  exact closing

end Pass

end Stencil
