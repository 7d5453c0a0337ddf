import Stencil.Proofs.Pass.Collected
import Stencil.Proofs.Script.Uses

/-! The order in which a script requests services: the services of its pass stand in the order of
their first requests, as each of them is requested before its first text is contributed. -/

namespace Stencil

open Attempt

variable {σ μ : Type}

/-- Of a list with one more element, the element counts unless it was there before. -/
theorem eraseDups_concat {α : Type} [DecidableEq α] (elements : List α) (element : α) :
    (elements ++ [element]).eraseDups =
      if element ∈ elements.eraseDups then elements.eraseDups
      else elements.eraseDups ++ [element] := by
  -- What is removed of the added element is all of it or nothing.
  have added : (elements ++ [element]).eraseDups =
      elements.eraseDups ++ ([element].removeAll elements).eraseDups := List.eraseDups_append
  rw [added]
  split
  · rename_i known
    have removed : [element].removeAll elements = [] := by
      simpa [List.removeAll] using List.mem_eraseDups.1 known
    rw [removed, List.eraseDups_nil, List.append_nil]
  -- An element that is new stays behind the others.
  · rename_i unknown
    have kept : [element].removeAll elements = [element] := by
      simpa [List.removeAll] using fun known => unknown (List.mem_eraseDups.2 known)
    rw [kept]
    rfl

namespace Move

/-- The service that a move requests, if it does. -/
def request? : Move μ → Option TargetKey
  | .requestService interface => some (Pass.serviceKey interface)
  | _ => none

/-- The services that moves request, in the order of their first requests. -/
def requestedServices (moves : List (Move μ)) : List TargetKey :=
  (moves.filterMap request?).eraseDups

/-- A move that requests no service does not change their order. -/
theorem requestedServices_aside {move : Move μ} (aside : move.request? = none)
    (moves : List (Move μ)) : requestedServices (moves ++ [move]) = requestedServices moves := by
  simp [requestedServices, aside]

/-- A requested service comes last, unless it was requested before. -/
theorem requestedServices_request (moves : List (Move μ)) (interface : String) :
    requestedServices (moves ++ [.requestService interface]) =
      if Pass.serviceKey interface ∈ requestedServices moves then requestedServices moves
      else requestedServices moves ++ [Pass.serviceKey interface] := by
  -- The request is the last one that is listed.
  have added : (moves ++ [Move.requestService interface]).filterMap request? =
      moves.filterMap request? ++ [Pass.serviceKey interface] := by
    rw [List.filterMap_append]
    rfl
  rw [requestedServices, requestedServices, added, eraseDups_concat]

/-- A move that asks for no service and leaves the pass open leaves the services alone. -/
theorem run_services (setup : Setup σ) {move : Move μ} (apart : ∀ interface, ¬move.Serves interface)
    (unclosed : move ≠ .finalize) (pass : Pass σ μ) :
    (move.run setup pass).2.services = pass.services ∧
      (move.run setup pass).2.finalized = pass.finalized := by
  -- Of the moves that are left, only those about sources do anything to the pass.
  cases move with
  | requestSource key =>
    obtain ⟨log, result⟩ := run_requestSource setup pass key
    rw [result]
    split <;> exact ⟨rfl, rfl⟩
  | settleSource key text =>
    -- Whatever settling comes to, it is about the sources.
    have settling := Pass.settleSource_settling setup key text pass
    show (Pass.settleSource setup key text pass).2.services = _ ∧
      (Pass.settleSource setup key text pass).2.finalized = _
    generalize Pass.settleSource setup key text pass = answer at settling ⊢
    obtain ⟨result, after⟩ := answer
    cases settling <;> exact ⟨rfl, rfl⟩
  | requestService interface => exact absurd (Or.inl rfl) (apart interface)
  | contribute interface text => exact absurd (Or.inr ⟨text, rfl⟩) (apart interface)
  | finalize => exact absurd rfl unclosed
  | dropSource | dropService | error | system | remember => exact ⟨rfl, rfl⟩

end Move

namespace Recorded

/-- A recorded pass is open, and its services stand in the order of their first requests. -/
structure Ordered (recorded : Recorded σ μ) : Prop where
  opened : recorded.pass.finalized = false
  keys : recorded.pass.services.keys = Move.requestedServices recorded.moves

/-- A later record is ordered if an earlier one is, and lacks none of its services. -/
structure Grows (before after : Recorded σ μ) : Prop where
  ordered : before.Ordered → after.Ordered
  known : ∀ key ∈ before.pass.services.keys, key ∈ after.pass.services.keys

/-- Records grow on. -/
theorem Grows.trans (first second third : Recorded σ μ) (left : Grows first second)
    (right : Grows second third) : Grows first third :=
  ⟨right.ordered ∘ left.ordered, fun key member => right.known key (left.known key member)⟩

/-- A move that asks for no service and leaves the pass open lets a record grow. -/
theorem grows_aside (setup : Setup σ) {move : Move μ} (apart : ∀ interface, ¬move.Serves interface)
    (unclosed : move ≠ .finalize) : Within Grows (setup.recorder.act move) := by
  -- Neither the services nor the list of requests changes.
  intro recorded
  obtain ⟨services, finalized⟩ := Move.run_services setup apart unclosed recorded.pass
  -- The list of requests skips every other move.
  have aside : move.request? = none := by
    cases move with
    | requestService interface => exact absurd (Or.inl rfl) (apart interface)
    | _ => rfl
  refine ⟨fun ordered => ⟨finalized.trans ordered.opened, ?_⟩, fun key member => ?_⟩
  · show (move.run setup recorded.pass).2.services.keys = Move.requestedServices (_ ++ [move])
    rw [services, ordered.keys, Move.requestedServices_aside aside]
  · show key ∈ (move.run setup recorded.pass).2.services.keys
    rw [services]
    exact member

/-- A request lets a record grow, and its service is known if it succeeds. -/
theorem grows_request (setup : Setup σ) (interface : String) (recorded : Recorded σ μ) :
    Grows recorded (setup.recorder.act (.requestService interface) recorded).2 ∧
      ((setup.recorder.act (.requestService interface) recorded).1 = .ok () →
        Pass.serviceKey interface ∈
          (setup.recorder.act (.requestService interface) recorded).2.pass.services.keys) := by
  obtain ⟨log, result⟩ := Move.run_requestService setup recorded.pass interface
  rw [Setup.recorder_act, result]
  cases closed : recorded.pass.finalized with
  | true =>
    -- A closed pass is not ordered to begin with.
    simp only [if_true]
    refine ⟨⟨fun ordered => ?_, fun _ => id⟩, fun done => by cases done⟩
    cases closed.symm.trans ordered.opened
  | false =>
    simp only [Bool.false_eq_true, if_false]
    refine ⟨⟨fun ordered => ⟨rfl, ?_⟩, fun key member => ?_⟩, fun _ => ?_⟩
    -- A service that was requested before keeps its place, and a new one comes last, on both
    -- sides.
    · have order := ordered.keys
      simp only [Move.requestedServices_request, ← order]
      rcases Pass.requested_cases recorded.pass.services (Pass.serviceKey interface) .fresh with
        ⟨same, known⟩ | ⟨put, absent⟩
      · rw [same, if_pos known]
      · rw [put, Table.keys_put]
    · exact Pass.mem_keys_requested.2 (Or.inr member)
    · exact Pass.mem_keys_requested.2 (Or.inl rfl)

/-- A contribution to a service that is known lets a record grow. -/
theorem grows_contribute (setup : Setup σ) (interface text : String) {recorded : Recorded σ μ}
    (known : Pass.serviceKey interface ∈ recorded.pass.services.keys) :
    Grows recorded (setup.recorder.act (.contribute interface text) recorded).2 := by
  rw [Setup.recorder_act, Move.run, Pass.appendService_apply]
  have order := fun moves : List (Move μ) => @Move.requestedServices_aside μ
    (.contribute interface text) rfl moves
  split
  -- A committed service refuses the text, and nothing changes.
  · exact ⟨fun ordered => ⟨ordered.opened, by rw [order]; exact ordered.keys⟩, fun _ => id⟩
  -- The service keeps its place.
  · have keys := Table.keys_put recorded.pass.services (Pass.serviceKey interface)
      ⟨(recorded.pass.serviceAt (Pass.serviceKey interface)).lines ++ lines text,
        (recorded.pass.serviceAt (Pass.serviceKey interface)).artifact⟩
    rw [if_pos known] at keys
    refine ⟨fun ordered => ⟨ordered.opened, ?_⟩, fun key member => ?_⟩
    · rw [order, ← ordered.keys]
      exact keys
    · show key ∈ Table.keys _
      rw [keys]
      exact member

/-- A call that contributes to a service lets a record grow, if its body does. -/
theorem grows_service (setup : Setup σ) (interface : String)
    {body : Attempt (Recorded σ μ) String} (inner : Within Grows body) :
    Within Grows (setup.recorder.service interface body) := by
  intro recorded
  obtain ⟨begun, requested⟩ := grows_request setup interface recorded
  unfold Carrier.service
  rw [bind_apply]
  generalize setup.recorder.act (.requestService interface) recorded = first at begun requested ⊢
  obtain ⟨failure | _, middle⟩ := first
  -- A request that fails is all that happens.
  · exact begun
  -- The service is known to its body, and so when the text of the body comes.
  · have known := (inner middle).known _ (requested rfl)
    refine begun.trans _ _ _ ((inner middle).trans _ _ _ ?_)
    simp only [bind_apply, outcome_apply]
    cases (body middle).1 with
    | error failure => exact grows_aside setup (by simp [Move.Serves]) (by simp) _
    | ok text => exact grows_contribute setup interface text known

end Recorded

/-- A script that does not close its pass leaves it open, with its services in the order of their
first requests. -/
theorem Script.recorded_ordered (setup : Setup σ) {script : Script μ}
    (unclosing : script.Uses (· ≠ .finalize)) (state : σ) (diagnostics : List Diagnostic)
    (memory : μ) :
    (script.run setup (.start state diagnostics memory)).2.finalized = false ∧
      (script.run setup (.start state diagnostics memory)).2.services.keys =
        Move.requestedServices (script.moves setup (.start state diagnostics memory)) := by
  -- Each call and each single move keeps the order, so the whole script does.
  have grows : Within Recorded.Grows (script.interpret setup.recorder) := by
    refine interpret_within (fun _ => ⟨id, fun _ => id⟩) Recorded.Grows.trans ?_ ?_ ?_ unclosing
    -- A call that writes a source asks for no service, unless its body does.
    · intro key body may inner
      have acts : ∀ move : Move μ, (∀ interface, ¬move.Serves interface) → move ≠ .finalize →
          Within Recorded.Grows (setup.recorder.act move) :=
        fun move apart unclosed => Recorded.grows_aside setup apart unclosed
      refine (acts _ (by simp [Move.Serves]) (by simp)).bind Recorded.Grows.trans fun _ =>
        Within.bind Recorded.Grows.trans inner fun answer => ?_
      cases answer with
      | error failure => exact acts _ (by simp [Move.Serves]) (by simp)
      | ok text => exact acts _ (by simp [Move.Serves]) (by simp)
    · exact fun _ inner => Recorded.grows_service setup _ inner
    -- Single moves are neither requests for services nor contributions.
    · intro move single unclosed
      refine Recorded.grows_aside setup (fun interface serves => ?_) unclosed
      rcases serves with rfl | ⟨text, rfl⟩ <;> exact single.elim
  have ordered := (grows ⟨.start state diagnostics memory, []⟩).ordered ⟨rfl, rfl⟩
  rw [Script.recorded] at ordered
  exact ⟨ordered.opened, ordered.keys⟩

end Stencil
