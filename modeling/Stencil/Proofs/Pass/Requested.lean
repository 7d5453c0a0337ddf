import Stencil.Proofs.Script.Forest

/-! The order in which sources are requested: those of a pass stand in the order of their first
requests, in which a call comes before the calls inside its body. -/

namespace Stencil

open Attempt

variable {σ μ : Type}

namespace Move

/-- Only requests and settlings are about the table of sources. -/
theorem run_sources (setup : Setup σ) {move : Move μ} (unasked : ∀ key, move ≠ .requestSource key)
    (unsettled : ∀ key text, move ≠ .settleSource key text) (pass : Pass σ μ) :
    (move.run setup pass).2.sources = pass.sources := by
  -- All moves are checked that are left when requests and settlings are set aside.
  cases move with
  | requestSource key => exact absurd rfl (unasked key)
  | settleSource key text => exact absurd rfl (unsettled key text)
  | requestService interface =>
    obtain ⟨log, result⟩ := run_requestService setup pass interface
    rw [result]
    split <;> rfl
  | contribute interface text =>
    rw [run, Pass.appendService_apply]
    split <;> rfl
  | finalize =>
    rw [run_finalize]
    have closing := Pass.finalize_closing setup pass
    generalize Pass.finalize setup pass = answer at closing ⊢
    obtain ⟨result, after⟩ := answer
    -- Closing commits services only.
    cases closing with
    | refused => rfl
    | failed _ _ only => exact only.sources
    | closed _ _ only => exact only.sources
  | dropSource | dropService | error | system | remember => rfl

/-- A source that is known keeps its place when it is settled. -/
theorem settleSource_keys (setup : Setup σ) {key : TargetKey} {pass : Pass σ μ}
    (known : key ∈ pass.sources.keys) (text : String) :
    (Pass.settleSource setup key text pass).2.sources.keys = pass.sources.keys := by
  -- A target is stored under a key that is there already, or not at all.
  have kept : ∀ target : SourceTarget, (pass.sources.put key target).keys = pass.sources.keys := by
    intro target
    rw [Table.keys_put, if_pos known]
  have settling := Pass.settleSource_settling setup key text pass
  generalize Pass.settleSource setup key text pass = answer at settling ⊢
  obtain ⟨result, after⟩ := answer
  cases settling with
  | repeated => rfl
  | committed => exact kept _
  | unformatted => exact kept _
  | failed => exact kept _

end Move

namespace Pass

/-- An open pass whose sources were requested in an order: they stand in that of the first requests. -/
structure Requested (order : List TargetKey) (pass : Pass σ μ) : Prop where
  opened : pass.finalized = false
  keys : pass.sources.keys = order.eraseDups

variable {order : List TargetKey} {pass : Pass σ μ}

/-- A request puts a source behind those that are known, unless it is one of them. -/
theorem Requested.request (requested : Requested order pass) (setup : Setup σ) (key : TargetKey) :
    Requested (order ++ [key]) ((Move.requestSource key : Move μ).run setup pass).2 := by
  refine ⟨?_, ?_⟩
  · have stays := @Move.run_finalized σ μ setup (.requestSource key) (by simp) pass
    exact stays.trans requested.opened
  -- A source that is known is not built again, and a new one comes last.
  · obtain ⟨log, result⟩ := Move.run_requestSource setup pass key
    rw [result, requested.opened, eraseDups_concat, ← requested.keys]
    simp only [Bool.false_eq_true, if_false]
    rcases requested_cases pass.sources key .fresh with ⟨same, known⟩ | ⟨put, absent⟩
    · rw [same, if_pos known]
    · rw [put, Table.keys_put]

/-- The end of a call for a source that was requested leaves all sources in their places. -/
theorem Requested.endSource (requested : Requested order pass) (setup : Setup σ) {key : TargetKey}
    (known : key ∈ order) (answer : Except Failure String) :
    Requested order ((Move.endSource key answer).run setup pass).2 := by
  refine ⟨?_, ?_⟩
  · rw [Move.run_finalized setup (Move.endSource_ne_finalize key answer), requested.opened]
  · cases answer with
    | error failure => exact requested.keys
    | ok text =>
      -- Only a body that has rendered settles the source, which is known by then.
      have inside : key ∈ pass.sources.keys := by rwa [requested.keys, List.mem_eraseDups]
      exact (Move.settleSource_keys setup inside text).trans requested.keys

/-- Any other move that leaves the pass open leaves all sources in their places. -/
theorem Requested.aside (requested : Requested order pass) (setup : Setup σ) {move : Move μ}
    (unclosing : move ≠ .finalize) (unasked : ∀ key, move ≠ .requestSource key)
    (unsettled : ∀ key text, move ≠ .settleSource key text) :
    Requested order (move.run setup pass).2 := by
  refine ⟨?_, ?_⟩
  · rw [Move.run_finalized setup unclosing, requested.opened]
  · rw [Move.run_sources setup unasked unsettled, requested.keys]

end Pass

namespace CallForest

/-- The sources of a forest are requested in the order of its calls, a call before the calls inside its
body. -/
theorem play_requested (setup : Setup σ) (forest : CallForest μ) {order : List TargetKey}
    {pass : Pass σ μ} (before : Pass.Requested order pass) :
    Pass.Requested (order ++ forest.requested) (Move.play setup forest.moves pass) := by
  induction forest generalizing pass order with
  | nil => rwa [requested, List.append_nil]
  | source key inner answer rest first later =>
    -- The source of the call is among those that were requested when the call ends.
    have inside := first (before.request setup key)
    have known : key ∈ order ++ [key] ++ inner.requested := by simp
    have after := later (inside.endSource setup known answer)
    have split : order ++ (source key inner answer rest).requested =
        order ++ [key] ++ inner.requested ++ rest.requested := by simp [requested]
    rw [split, moves, Move.play, Move.play_append]
    exact after
  | service interface inner answer rest first later =>
    -- Neither the request of a service nor its end is about sources.
    have begun : Pass.Requested order ((Move.requestService interface).run setup pass).2 :=
      before.aside setup (by simp) (by simp) (by simp)
    have inside := first begun
    have ended : Pass.Requested (order ++ inner.requested)
        ((Move.endService interface answer).run setup _).2 :=
      inside.aside setup (Move.endService_ne_finalize interface answer)
        (Move.endService_ne_requestSource interface answer)
        (Move.endService_ne_settleSource interface answer)
    have after := later ended
    have split : order ++ (service interface inner answer rest).requested =
        order ++ inner.requested ++ rest.requested := by simp [requested]
    rw [split, moves, Move.play, Move.play_append]
    exact after
  | single move alone unclosing rest later =>
    -- A single move is neither a request for a source nor a settling.
    have step : Pass.Requested order (move.run setup pass).2 := by
      refine before.aside setup unclosing (fun key same => ?_) fun key text same => ?_
      · subst same
        exact alone
      · subst same
        exact alone
    exact later step

end CallForest

end Stencil
