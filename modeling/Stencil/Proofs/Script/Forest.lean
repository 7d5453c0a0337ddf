import Stencil.Proofs.Pass.Requests

/-! The calls of a script as a forest: each call that asks for a target holds the calls that were made
while its body rendered. The moves of the script are the walk around its forest, in which a call comes
first with its request, and last with what became of its body. -/

namespace Stencil

open Attempt

variable {σ μ : Type}

/-- A row of calls, each of them with the row of calls inside its body and the answer of the body. -/
inductive CallForest (μ : Type) where
  | nil
  | source (key : TargetKey) (inner : CallForest μ) (answer : Except Failure String)
      (rest : CallForest μ)
  | service (interface : String) (inner : CallForest μ) (answer : Except Failure String)
      (rest : CallForest μ)
  | single (move : Move μ) (alone : move.Single) (unclosing : move ≠ .finalize)
      (rest : CallForest μ)

namespace Move

/-- The move that ends a call for a source. -/
def endSource (key : TargetKey) : Except Failure String → Move μ
  | .ok text => .settleSource key text
  | .error failure => .dropSource key failure

/-- The move that ends a call for a service. -/
def endService (interface : String) : Except Failure String → Move μ
  | .ok text => .contribute interface text
  | .error failure => .dropService interface failure

/-- The end of a call for a source tells the answer of its body. -/
theorem endSource_inj {key : TargetKey} {answer other : Except Failure String}
    (same : (endSource key answer : Move μ) = endSource key other) : answer = other := by
  cases answer <;> cases other <;> simp_all [endSource]

/-- The end of a call for a service tells the answer of its body. -/
theorem endService_inj {interface : String} {answer other : Except Failure String}
    (same : (endService interface answer : Move μ) = endService interface other) :
    answer = other := by
  cases answer <;> cases other <;> simp_all [endService]

/-- A call for a source does not end with closing the pass. -/
theorem endSource_ne_finalize (key : TargetKey) (answer : Except Failure String) :
    (endSource key answer : Move μ) ≠ .finalize := by
  cases answer <;> simp [endSource]

/-- A call for a service does not end with closing the pass. -/
theorem endService_ne_finalize (interface : String) (answer : Except Failure String) :
    (endService interface answer : Move μ) ≠ .finalize := by
  cases answer <;> simp [endService]

/-- A call for a service does not end with a request for a source. -/
theorem endService_ne_requestSource (interface : String) (answer : Except Failure String)
    (key : TargetKey) : (endService interface answer : Move μ) ≠ .requestSource key := by
  cases answer <;> simp [endService]

/-- A call for a service does not end with settling a source. -/
theorem endService_ne_settleSource (interface : String) (answer : Except Failure String)
    (key : TargetKey) (text : String) :
    (endService interface answer : Move μ) ≠ .settleSource key text := by
  cases answer <;> simp [endService]

/-- Only closing a pass changes whether it is open. -/
theorem run_finalized (setup : Setup σ) {move : Move μ} (unclosing : move ≠ .finalize)
    (pass : Pass σ μ) : (move.run setup pass).2.finalized = pass.finalized := by
  by_cases serves : ∃ interface, move.Serves interface
  -- Neither a request nor a contribution is about the pass as a whole.
  · obtain ⟨interface, rfl | ⟨text, rfl⟩⟩ := serves
    · obtain ⟨log, result⟩ := run_requestService setup pass interface
      rw [result]
      split <;> rfl
    · rw [run, Pass.appendService_apply]
      split <;> rfl
  · exact (run_services setup (fun interface here => serves ⟨interface, here⟩) unclosing pass).2

end Move

namespace Carrier

variable {τ : Type} (carrier : Carrier τ μ)

/-- A call for a source ends with one move, for either answer of its body. -/
theorem source_ends (key : TargetKey) (body : Attempt τ String) :
    carrier.source key body = (carrier.act (.requestSource key) >>= fun _ =>
      body.outcome >>= fun answer => carrier.act (Move.endSource key answer)) := by
  -- The two branches of the call are the two cases of its last move.
  unfold source
  congr 1
  funext _
  congr 1
  funext answer
  cases answer <;> rfl

/-- A call for a service ends with one move, for either answer of its body. -/
theorem service_ends (interface : String) (body : Attempt τ String) :
    carrier.service interface body = (carrier.act (.requestService interface) >>= fun _ =>
      body.outcome >>= fun answer => carrier.act (Move.endService interface answer)) := by
  -- Here, too, the answer of the body only selects the last move.
  unfold service
  congr 1
  funext _
  congr 1
  funext answer
  cases answer <;> rfl

end Carrier

namespace CallForest

/-- The moves of a forest: those of a body come between the request of its call and its end. -/
def moves : CallForest μ → List (Move μ)
  | nil => []
  | source key inner answer rest =>
    .requestSource key :: (inner.moves ++ Move.endSource key answer :: rest.moves)
  | service interface inner answer rest =>
    .requestService interface :: (inner.moves ++ Move.endService interface answer :: rest.moves)
  | single move _ _ rest => move :: rest.moves

/-- The sources that are requested: a call comes before the calls inside its body. -/
def requested : CallForest μ → List TargetKey
  | nil => []
  | source key inner _ rest => key :: (inner.requested ++ rest.requested)
  | service _ inner _ rest => inner.requested ++ rest.requested
  | single _ _ _ rest => rest.requested

/-- The sources whose bodies have rendered: a call comes after the calls inside its body. -/
def settled : CallForest μ → List TargetKey
  | nil => []
  | source key inner (.ok _) rest => inner.settled ++ key :: rest.settled
  | source _ inner (.error _) rest => inner.settled ++ rest.settled
  | service _ inner _ rest => inner.settled ++ rest.settled
  | single _ _ _ rest => rest.settled

/-- The services that are requested: a call comes before the calls inside its body. -/
def services : CallForest μ → List TargetKey
  | nil => []
  | source _ inner _ rest => inner.services ++ rest.services
  | service interface inner _ rest =>
    Pass.serviceKey interface :: (inner.services ++ rest.services)
  | single _ _ _ rest => rest.services

/-- One forest behind another. -/
def append : CallForest μ → CallForest μ → CallForest μ
  | nil, more => more
  | source key inner answer rest, more => source key inner answer (rest.append more)
  | service interface inner answer rest, more => service interface inner answer (rest.append more)
  | single move alone unclosing rest, more => single move alone unclosing (rest.append more)

/-- Forests behind each other have their moves behind each other. -/
theorem moves_append (forest more : CallForest μ) :
    (forest.append more).moves = forest.moves ++ more.moves := by
  -- Calls nest to the inside, so it is the calls behind that carry the induction.
  induction forest with
  | nil => rfl
  | source key inner answer rest _ ih => simp [append, moves, ih]
  | service interface inner answer rest _ ih => simp [append, moves, ih]
  | single move alone unclosing rest ih => simp [append, moves, ih]

/-- A row of moves does not go on with a call: it stops, or it begins with the end of one. -/
def Ending : List (Move μ) → Prop
  | [] => True
  | .settleSource _ _ :: _ | .dropSource _ _ :: _ => True
  | .contribute _ _ :: _ | .dropService _ _ :: _ => True
  | _ => False

/-- The end of a call for a source is no beginning of a call. -/
theorem ending_endSource (key : TargetKey) (answer : Except Failure String) (rest : List (Move μ)) :
    Ending (Move.endSource key answer :: rest) := by
  cases answer <;> trivial

/-- The end of a call for a service is no beginning of a call. -/
theorem ending_endService (interface : String) (answer : Except Failure String)
    (rest : List (Move μ)) : Ending (Move.endService interface answer :: rest) := by
  cases answer <;> trivial

/-- A move that is the only one of its call is no end of one. -/
theorem not_ending_single {move : Move μ} (alone : move.Single) (rest : List (Move μ)) :
    ¬Ending (move :: rest) := by
  cases move with
  | error | system | finalize | remember => exact id
  | _ => exact alone.elim

/-- Where no call goes on, the moves of a forest tell the forest and what comes behind it. -/
theorem moves_append_inj {forest other : CallForest μ} {rest more : List (Move μ)}
    (ends : Ending rest) (ends' : Ending more)
    (same : forest.moves ++ rest = other.moves ++ more) : forest = other ∧ rest = more := by
  -- The first move tells the kind of the first call, whose body reaches as far as its end.
  induction forest generalizing other rest more with
  | nil =>
    -- No call is left on this side, so the rest begins with the first call of the other.
    subst same
    cases other with
    | nil => exact ⟨rfl, rfl⟩
    | source | service => exact ends.elim
    | single move alone => exact absurd ends (not_ending_single alone _)
  | source key inner answer others first later =>
    cases other with
    | nil =>
      -- The rest of this side would begin with a request, which ends nothing.
      subst same
      exact ends'.elim
    | source key' inner' answer' others' =>
      -- Both begin with the same request, and both bodies are followed by the end of a call.
      simp only [moves, List.cons_append, List.append_assoc, List.cons.injEq,
        Move.requestSource.injEq] at same
      obtain ⟨rfl, same⟩ := same
      obtain ⟨rfl, behind⟩ := first (ending_endSource _ _ _) (ending_endSource _ _ _) same
      -- That end tells the answer, and what comes behind it is shorter.
      obtain ⟨ended, behind⟩ := List.cons.inj behind
      obtain ⟨rfl, rfl⟩ := later ends ends' behind
      exact ⟨by rw [Move.endSource_inj ended], rfl⟩
    | service => cases (List.cons.inj same).1
    | single move alone =>
      obtain rfl := (List.cons.inj same).1
      exact alone.elim
  | service interface inner answer others first later =>
    cases other with
    | nil =>
      subst same
      exact ends'.elim
    | service interface' inner' answer' others' =>
      simp only [moves, List.cons_append, List.append_assoc, List.cons.injEq,
        Move.requestService.injEq] at same
      -- Up to the names of its moves, a service is told from its moves like a source.
      obtain ⟨rfl, same⟩ := same
      obtain ⟨rfl, behind⟩ := first (ending_endService _ _ _) (ending_endService _ _ _) same
      obtain ⟨ended, behind⟩ := List.cons.inj behind
      obtain ⟨rfl, rfl⟩ := later ends ends' behind
      exact ⟨by rw [Move.endService_inj ended], rfl⟩
    | source => cases (List.cons.inj same).1
    | single move alone =>
      obtain rfl := (List.cons.inj same).1
      exact alone.elim
  | single move alone unclosing others later =>
    cases other with
    | nil =>
      subst same
      exact absurd ends' (not_ending_single alone _)
    | source | service =>
      -- A single move is never the request of a call.
      obtain rfl := (List.cons.inj same).1
      exact alone.elim
    | single move' alone' unclosing' others' =>
      -- Two single moves that are the same leave the same behind them.
      obtain ⟨rfl, behind⟩ := List.cons.inj same
      obtain ⟨rfl, rfl⟩ := later ends ends' behind
      exact ⟨rfl, rfl⟩

/-- The moves of a forest tell the forest. -/
theorem moves_injective : Function.Injective (moves : CallForest μ → List (Move μ)) := by
  -- No move is left behind either of them.
  intro forest other same
  have stops : Ending ([] : List (Move μ)) := trivial
  have behind : forest.moves ++ [] = other.moves ++ [] := by rw [same]
  exact (moves_append_inj stops stops behind).1

/-- The services that the moves of a forest request are those of the forest. -/
theorem requestedServices_moves (forest : CallForest μ) :
    Move.requestedServices forest.moves = forest.services.eraseDups := by
  -- Before repetitions are dropped, both list one service for each call.
  have all : forest.moves.filterMap Move.request? = forest.services := by
    induction forest with
    | nil => rfl
    | source key inner answer rest first later =>
      cases answer <;>
        simp [moves, services, List.filterMap_cons, Move.request?, Move.endSource, first, later]
    | service interface inner answer rest first later =>
      cases answer <;>
        simp [moves, services, List.filterMap_cons, Move.request?, Move.endService, first, later]
    | single move alone unclosing rest later =>
      -- A move outside of a call requests no service.
      have aside : move.request? = none := by
        cases move with
        | requestService interface => exact alone.elim
        | _ => rfl
      rw [moves, services, List.filterMap_cons_none aside, later]
  rw [Move.requestedServices, all]

/-- No move of a forest closes the pass. -/
theorem finalize_not_mem (forest : CallForest μ) : .finalize ∉ forest.moves := by
  -- The moves that begin and end a call are others, and a single move is one by assumption.
  induction forest with
  | nil => exact List.not_mem_nil
  | source key inner answer rest first later =>
    cases answer <;> simp [moves, Move.endSource, first, later]
  | service interface inner answer rest first later =>
    cases answer <;> simp [moves, Move.endService, first, later]
  | single move alone unclosing rest later =>
    simp [moves, later, Ne.symm unclosing]

end CallForest

namespace Recorded

/-- On a pass that is open, a record has grown by the moves of a forest, and the pass is still open. -/
def GrowsBy (before after : Recorded σ μ) : Prop :=
  before.pass.finalized = false → after.pass.finalized = false ∧
    ∃ forest : CallForest μ, after.moves = before.moves ++ forest.moves

/-- Forests follow one another. -/
theorem GrowsBy.trans (first second third : Recorded σ μ) (left : GrowsBy first second)
    (right : GrowsBy second third) : GrowsBy first third := by
  -- The second forest comes behind the first.
  intro opened
  obtain ⟨between, forest, here⟩ := left opened
  obtain ⟨last, more, there⟩ := right between
  refine ⟨last, forest.append more, ?_⟩
  rw [there, here, CallForest.moves_append, List.append_assoc]

variable {setup : Setup σ}

/-- A call that begins with a move that succeeds on an open pass, and that ends with one for the answer
of its body, grows by a forest of one call. -/
theorem growsBy_call {begins : Move μ} {ends : Except Failure String → Move μ}
    {call : CallForest μ → Except Failure String → CallForest μ}
    (shape : ∀ inner answer, (call inner answer).moves = begins :: (inner.moves ++ [ends answer]))
    (begun : ∀ pass : Pass σ μ, pass.finalized = false → (begins.run setup pass).1 = .ok ())
    (unclosing : begins ≠ .finalize ∧ ∀ answer, ends answer ≠ .finalize)
    {body : Attempt (Recorded σ μ) String} (inner : Within GrowsBy body) :
    Within GrowsBy (setup.recorder.act begins >>= fun _ => body.outcome >>= fun answer =>
      setup.recorder.act (ends answer)) := by
  intro recorded opened
  have requested : setup.recorder.act begins recorded =
      (.ok (), ⟨(begins.run setup recorded.pass).2, recorded.moves ++ [begins]⟩) := by
    rw [Setup.recorder_act, begun _ opened]
  -- The request succeeds, and the pass stays open.
  rw [bind_of_ok requested, bind_apply, outcome_apply]
  have still : (begins.run setup recorded.pass).2.finalized = false := by
    rw [Move.run_finalized setup unclosing.1, opened]
  -- The body goes on from the request, and the call ends where the body has led.
  obtain ⟨between, forest, grown⟩ :=
    inner ⟨(begins.run setup recorded.pass).2, recorded.moves ++ [begins]⟩ still
  generalize body ⟨(begins.run setup recorded.pass).2, recorded.moves ++ [begins]⟩ = rendered
    at between grown ⊢
  obtain ⟨answer, middle⟩ := rendered
  refine ⟨?_, call forest answer, ?_⟩
  -- Neither the body nor the last move closes the pass.
  · show ((ends answer).run setup middle.pass).2.finalized = false
    rw [Move.run_finalized setup (unclosing.2 answer)]
    exact between
  -- The record holds the request, the moves of the body, and the last move.
  · show middle.moves ++ [ends answer] = _
    have here : middle.moves = recorded.moves ++ [begins] ++ forest.moves := grown
    rw [here, shape]
    simp

/-- A call for a source grows by a forest of one call. -/
theorem growsBy_source (key : TargetKey) {body : Attempt (Recorded σ μ) String}
    (inner : Within GrowsBy body) : Within GrowsBy (setup.recorder.source key body) := by
  -- A request for a source succeeds on every open pass.
  rw [Carrier.source_ends]
  have shape : ∀ (forest : CallForest μ) (answer : Except Failure String),
      (CallForest.source key forest answer .nil).moves =
        .requestSource key :: (forest.moves ++ [Move.endSource key answer]) := fun _ _ => rfl
  refine growsBy_call shape (fun pass opened => ?_) ⟨by simp, Move.endSource_ne_finalize key⟩ inner
  obtain ⟨log, result⟩ := Move.run_requestSource setup pass key
  rw [result, opened]
  rfl

/-- A call for a service grows by a forest of one call. -/
theorem growsBy_service (interface : String) {body : Attempt (Recorded σ μ) String}
    (inner : Within GrowsBy body) : Within GrowsBy (setup.recorder.service interface body) := by
  -- A request for a service succeeds on every open pass, too.
  rw [Carrier.service_ends]
  have shape : ∀ (forest : CallForest μ) (answer : Except Failure String),
      (CallForest.service interface forest answer .nil).moves =
        .requestService interface :: (forest.moves ++ [Move.endService interface answer]) :=
    fun _ _ => rfl
  refine growsBy_call shape (fun pass opened => ?_)
    ⟨by simp, Move.endService_ne_finalize interface⟩ inner
  obtain ⟨log, result⟩ := Move.run_requestService setup pass interface
  rw [result, opened]
  rfl

end Recorded

/-- A script that does not close its pass leaves an open one open, and its moves are those of a
forest. -/
theorem Script.exists_forest (setup : Setup σ) {script : Script μ}
    (unclosing : script.Uses (· ≠ .finalize)) {pass : Pass σ μ} (opened : pass.finalized = false) :
    (script.run setup pass).2.finalized = false ∧
      ∃ forest : CallForest μ, script.moves setup pass = forest.moves := by
  -- Each call grows by a forest of one call, and each single move by a forest of itself.
  have grows : Within Recorded.GrowsBy (script.interpret setup.recorder) := by
    refine interpret_within (fun _ opened => ⟨opened, .nil, (List.append_nil _).symm⟩)
      Recorded.GrowsBy.trans (fun _ inner => Recorded.growsBy_source _ inner)
      (fun _ inner => Recorded.growsBy_service _ inner) ?_ unclosing
    intro move alone unclosing recorded opened
    refine ⟨?_, .single move alone unclosing .nil, rfl⟩
    rw [Setup.recorder_act, Move.run_finalized setup unclosing, opened]
  have grown := grows ⟨pass, []⟩ opened
  rw [Script.recorded] at grown
  exact grown

end Stencil
