import Stencil.Proofs.Pass.Move

/-! What an open pass has collected: every service holds the lines of all texts that were
contributed to it, in the order in which their bodies rendered, whatever else happened in between.
-/

namespace Stencil

namespace Move

variable {μ : Type}

/-- The text that a move contributes to an interface, if it does. -/
def contribution? (interface : String) : Move μ → Option String
  | .contribute other text => if other = interface then some text else none
  | _ => none

/-- The texts that moves contribute to an interface, in order. -/
def contributions (interface : String) (moves : List (Move μ)) : List String :=
  moves.filterMap (contribution? interface)

/-- The lines that moves contribute to an interface, in order. -/
def contributed (interface : String) (moves : List (Move μ)) : List String :=
  (contributions interface moves).flatMap lines

/-- A move asks for a service: it requests it, or contributes to it. -/
def Serves (interface : String) (move : Move μ) : Prop :=
  move = .requestService interface ∨ ∃ text, move = .contribute interface text

/-- Lines of later moves follow those of the earlier ones. -/
theorem contributed_append (interface : String) (moves more : List (Move μ)) :
    contributed interface (moves ++ more) =
      contributed interface moves ++ contributed interface more := by
  simp only [contributed, contributions, List.filterMap_append, List.flatMap_append]

/-- A move that does not ask for a service contributes no line to it. -/
theorem contributed_apart {interface : String} {move : Move μ} (apart : ¬Serves interface move) :
    contributed interface [move] = [] := by
  -- Only a contribution to the very interface has a text.
  cases move with
  | contribute other text =>
    have different : other ≠ interface := fun same => apart (Or.inr ⟨text, by rw [same]⟩)
    simp [contributed, contributions, contribution?, different]
  | _ => rfl

end Move

namespace Pass

open Move

variable {σ μ : Type}

/-- Interfaces have service files of their own. -/
theorem serviceKey_injective {interface other : String}
    (same : serviceKey interface = serviceKey other) : interface = other := by
  -- Their names start alike.
  simpa [serviceKey] using same

/-- What an open pass has collected over some moves: its services hold the lines contributed to
them, none of them is committed, and they are those for which some move asked. -/
structure Collected (moves : List (Move μ)) (pass : Pass σ μ) : Prop where
  opened : pass.finalized = false
  held : ∀ interface, pass.serviceAt (serviceKey interface) = ⟨contributed interface moves, none⟩
  known : ∀ key, key ∈ pass.services.keys ↔
    ∃ interface, key = serviceKey interface ∧ ∃ move ∈ moves, move.Serves interface

/-- Nothing is collected at the start of a pass. -/
theorem collected_start (state : σ) (diagnostics : List Diagnostic) (memory : μ) :
    Collected [] (.start state diagnostics memory) :=
  ⟨rfl, fun _ => rfl, by simp [start, Table.keys, Table.empty]⟩

/-- A move that asks for no service collects nothing, if it leaves the services alone. -/
theorem Collected.aside {moves : List (Move μ)} {pass after : Pass σ μ}
    (collected : Collected moves pass) {move : Move μ}
    (apart : ∀ interface, ¬move.Serves interface) (services : after.services = pass.services)
    (unclosed : after.finalized = pass.finalized) : Collected (moves ++ [move]) after := by
  -- Neither the services nor the moves that ask for one have become more.
  refine ⟨unclosed.trans collected.opened, fun interface => ?_, fun key => ?_⟩
  · have same : after.serviceAt (serviceKey interface) = pass.serviceAt (serviceKey interface) := by
      simp only [serviceAt, services]
    rw [same, collected.held, contributed_append, contributed_apart (apart interface),
      List.append_nil]
  · rw [services, collected.known]
    simp [apart]

/-- A move that asks for a service leaves the lines that it contributes there, and no others. -/
theorem Collected.serve {moves : List (Move μ)} {pass after : Pass σ μ}
    (collected : Collected moves pass) {move : Move μ} {interface : String}
    (serves : move.Serves interface) (only : ∀ other, move.Serves other → other = interface)
    (unclosed : after.finalized = pass.finalized)
    (here : after.serviceAt (serviceKey interface) =
      ⟨contributed interface moves ++ contributed interface [move], none⟩)
    (others : ∀ key ≠ serviceKey interface, after.serviceAt key = pass.serviceAt key)
    (keys : ∀ key, key ∈ after.services.keys ↔
      key = serviceKey interface ∨ key ∈ pass.services.keys) :
    Collected (moves ++ [move]) after := by
  refine ⟨unclosed.trans collected.opened, fun other => ?_, fun key => ?_⟩
  -- Every other interface has another key, so the move is none of its business.
  · by_cases same : other = interface
    · rw [same, here, contributed_append]
    · have apart : ¬move.Serves other := fun asks => same (only other asks)
      rw [others _ fun equal => same (serviceKey_injective equal), collected.held,
        contributed_append, contributed_apart apart, List.append_nil]
  -- The service for which the move asks joins those that were known.
  · rw [keys, collected.known]
    constructor
    · rintro (rfl | ⟨other, rfl, earlier, inside, asks⟩)
      · exact ⟨interface, rfl, move, by simp, serves⟩
      · exact ⟨other, rfl, earlier, List.mem_append_left _ inside, asks⟩
    · rintro ⟨other, rfl, asking, inside, asks⟩
      rcases List.mem_append.1 inside with earlier | last
      · exact Or.inr ⟨other, rfl, asking, earlier, asks⟩
      · rw [List.mem_singleton.1 last] at asks
        exact Or.inl (by rw [only other asks])

/-- Every move that does not close the pass adds what it contributes to what was collected. -/
theorem Collected.step (setup : Setup σ) {moves : List (Move μ)} {pass : Pass σ μ}
    (collected : Collected moves pass) {move : Move μ} (unclosed : move ≠ .finalize) :
    Collected (moves ++ [move]) (move.run setup pass).2 := by
  cases move with
  | requestService interface =>
    obtain ⟨log, result⟩ := run_requestService setup pass interface
    rw [result, if_neg (by simp [collected.opened])]
    -- A service that is requested for the first time holds no lines.
    refine collected.serve (Or.inl rfl) (by simp [Serves]) rfl ?_ ?_ ?_
    · rw [serviceAt_requested rfl, collected.held]
      simp [contributed, contributions, contribution?]
    · exact fun key _ => serviceAt_requested rfl key
    · exact fun key => mem_keys_requested
  | contribute interface text =>
    -- The service is not committed, so it takes the lines.
    have uncommitted : ¬(pass.serviceAt (serviceKey interface)).completed = true := by
      simp [collected.held, ServiceTarget.completed]
    rw [Move.run, appendService_apply, if_neg uncommitted]
    refine collected.serve (Or.inr ⟨text, rfl⟩) (by simp [Serves, eq_comm]) rfl ?_ ?_ ?_
    · rw [serviceAt_put rfl, if_pos rfl, collected.held]
      simp [contributed, contributions, contribution?]
    · exact fun key different => by rw [serviceAt_put rfl, if_neg different]
    · exact fun key => Table.mem_keys_put
  | finalize => exact absurd rfl unclosed
  | requestSource key =>
    obtain ⟨log, result⟩ := run_requestSource setup pass key
    rw [result, if_neg (by simp [collected.opened])]
    exact collected.aside (by simp [Serves]) rfl rfl
  | settleSource key text =>
    -- Whatever settling comes to, it is about the sources.
    have settling := settleSource_settling setup key text pass
    show Collected _ (settleSource setup key text pass).2
    generalize settleSource setup key text pass = answer at settling ⊢
    obtain ⟨result, after⟩ := answer
    cases settling <;> exact collected.aside (by simp [Serves]) rfl rfl
  | dropSource | dropService | error | system | remember =>
    exact collected.aside (by simp [Serves]) rfl rfl

/-- Moves that do not close the pass leave it open, with everything collected that they
contributed. -/
theorem collected_unclosed {setup : Setup σ} {moves : List (Move μ)} (unclosed : .finalize ∉ moves)
    (state : σ) (diagnostics : List Diagnostic) (memory : μ) :
    Collected moves (play setup moves (.start state diagnostics memory)) := by
  have each : ∀ move ∈ moves, move ≠ .finalize := fun move member same => unclosed (same ▸ member)
  -- Each such move keeps what the moves before it have collected.
  have all := @play_invariant σ μ setup (fun _ move => move ≠ .finalize) Collected
    (fun earlier pass move collected kept => collected.step setup kept) [] moves _
    (collected_start state diagnostics memory) (along_of_forall each _)
  simpa using all

/-- A pass that was left open has collected everything that its moves contributed. -/
theorem collected_play {setup : Setup σ} {moves : List (Move μ)} {state : σ}
    {diagnostics : List Diagnostic} {memory : μ}
    (opened : (play setup moves (.start state diagnostics memory)).finalized = false) :
    Collected moves (play setup moves (.start state diagnostics memory)) :=
  -- None of the moves has closed it.
  collected_unclosed (finalize_not_mem opened) state diagnostics memory

/-- No service is committed before the pass is closed. -/
theorem Collected.uncommitted {moves : List (Move μ)} {pass : Pass σ μ}
    (collected : Collected moves pass) (key : TargetKey) :
    (pass.serviceAt key).artifact = none := by
  -- A service that is not there counts as fresh.
  by_cases known : key ∈ pass.services.keys
  · obtain ⟨interface, rfl, _⟩ := (collected.known key).1 known
    rw [collected.held]
  · have absent : pass.services.find? key = none := by
      simpa [← Table.contains_iff, Table.contains] using known
    rw [serviceAt, absent]
    rfl

end Pass

end Stencil
