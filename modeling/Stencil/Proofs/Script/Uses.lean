import Stencil.Proofs.Script.Moves

/-! The operations that a script can invoke, on any of its branches, and what is kept by a script
whose operations all keep it. -/

namespace Stencil

open Attempt

/-- The move with which the call that a move belongs to begins. -/
def Move.call {μ : Type} : Move μ → Move μ
  | .settleSource key _ => .requestSource key
  | .dropSource key _ => .requestSource key
  | .contribute interface _ => .requestService interface
  | .dropService interface _ => .requestService interface
  | move => move

/-- A move is the only one of its call. -/
def Move.Single {μ : Type} : Move μ → Prop
  | .error _ | .system _ | .finalize | .remember _ => True
  | _ => False

namespace Script

variable {σ τ μ : Type} {allowed : Move μ → Prop}

/-- Every operation that a script can invoke is an allowed one. -/
def Uses (allowed : Move μ → Prop) : Script μ → Prop
  | .done _ => True
  | .fail _ => True
  | .source package name body next =>
    allowed (.requestSource ⟨package, name⟩) ∧ (∀ call, Uses allowed (body call)) ∧
      Uses allowed next
  | .service interface body next =>
    allowed (.requestService interface) ∧ (∀ call, Uses allowed (body call)) ∧ Uses allowed next
  | .error message next => allowed (.error message) ∧ Uses allowed next
  | .system message next => allowed (.system message) ∧ Uses allowed next
  | .trim body next => (∀ call, Uses allowed (body call)) ∧ ∀ text, Uses allowed (next text)
  | .collapsible body next => (∀ call, Uses allowed (body call)) ∧ ∀ text, Uses allowed (next text)
  | .linesShortable body _ next =>
    (∀ call, Uses allowed (body call)) ∧ ∀ text, Uses allowed (next text)
  | .finalize next => allowed .finalize ∧ Uses allowed next
  | .recover body next => Uses allowed body ∧ ∀ outcome, Uses allowed (next outcome)
  | .look _ next => ∀ content, Uses allowed (next content)
  | .remembered next => ∀ memory, Uses allowed (next memory)
  | .remember memory next => allowed (.remember memory) ∧ Uses allowed next

section Within

variable {carrier : Carrier τ μ} {related : τ → τ → Prop}
  (refl : ∀ state, related state state)
  (trans : ∀ first second third, related first second → related second third → related first third)

include refl trans

/-- A script stays within a relation if all calls that it can make do so with bodies that do. -/
theorem interpret_within
    (sources : ∀ {key body}, allowed (.requestSource key) → Within related body →
      Within related (carrier.source key body))
    (services : ∀ {interface body}, allowed (.requestService interface) → Within related body →
      Within related (carrier.service interface body))
    (acts : ∀ move : Move μ, move.Single → allowed move → Within related (carrier.act move))
    {script : Script μ} (uses : script.Uses allowed) : Within related (script.interpret carrier) := by
  -- A script is put together from calls and bodies, one after the other.
  induction script with
  | done text => exact refl
  | fail failure => exact refl
  -- A call for a target uses its body at the first rendering, and then what comes behind.
  | source package name body next bodies rest =>
    obtain ⟨may, inner, after⟩ := uses
    exact (sources may (bodies 0 (inner 0))).bind trans fun _ => rest after
  | service interface body next bodies rest =>
    obtain ⟨may, inner, after⟩ := uses
    exact (services may (bodies 0 (inner 0))).bind trans fun _ => rest after
  | error message next rest =>
    exact (acts (.error message) trivial uses.1).bind trans fun _ => rest uses.2
  | system message next rest =>
    exact (acts (.system message) trivial uses.1).bind trans fun _ => rest uses.2
  | trim body next bodies rest =>
    exact Within.bind trans (Within.bind trans (bodies 0 (uses.1 0)) fun _ => refl)
      fun text => rest text (uses.2 text)
  | collapsible body next bodies rest =>
    refine Within.bind trans (Within.bind trans (bodies 0 (uses.1 0)) fun first => ?_)
      fun text => rest text (uses.2 text)
    -- The second rendering takes place only for a text that is not blank.
    split
    · exact refl
    · exact bodies 1 (uses.1 1)
  | linesShortable body width next bodies rest =>
    refine Within.bind trans (Within.bind trans (bodies 0 (uses.1 0)) fun first =>
      Within.bind trans refl fun _ => ?_) fun text => rest text (uses.2 text)
    split
    · exact refl
    · exact bodies 1 (uses.1 1)
  | finalize next rest => exact (acts .finalize trivial uses.1).bind trans fun _ => rest uses.2
  | recover body next inner rest =>
    exact Within.bind trans (inner uses.1) fun outcome => rest outcome (uses.2 outcome)
  | look path next rest => exact Within.bind trans refl fun state => rest _ (uses _)
  | remembered next rest => exact Within.bind trans refl fun state => rest _ (uses _)
  | remember memory next rest =>
    exact (acts (.remember memory) trivial uses.1).bind trans fun _ => rest uses.2

/-- A script stays within a relation if all moves that it can make do. -/
theorem interpret_within_moves
    (acts : ∀ move : Move μ, allowed move.call → Within related (carrier.act move))
    {script : Script μ} (uses : script.Uses allowed) : Within related (script.interpret carrier) := by
  refine interpret_within refl trans ?_ ?_ ?_ uses
  -- The answer of the body decides which move comes last.
  · intro key body may inner
    refine (acts (.requestSource key) may).bind trans fun _ =>
      Within.bind trans inner fun answer => ?_
    cases answer with
    | error failure => exact acts (.dropSource key failure) may
    | ok text => exact acts (.settleSource key text) may
  · intro interface body may inner
    refine (acts (.requestService interface) may).bind trans fun _ =>
      Within.bind trans inner fun answer => ?_
    cases answer with
    | error failure => exact acts (.dropService interface failure) may
    | ok text => exact acts (.contribute interface text) may
  -- A move that is the only one of its call begins it.
  · intro move single may
    cases move with
    | error | system | finalize | remember => exact acts _ may
    | requestSource | settleSource | dropSource | requestService | contribute | dropService =>
      exact single.elim

end Within

/-- The calls of all moves that a script makes are allowed if all that it can make are. -/
theorem moves_uses (setup : Setup σ) {script : Script μ} (uses : script.Uses allowed)
    (pass : Pass σ μ) : ∀ move ∈ script.moves setup pass, allowed move.call := by
  -- The record has only allowed moves at its start, and each move that is added is one.
  refine @interpret_within_moves _ μ allowed setup.recorder
    (fun before after => (∀ move ∈ before.moves, allowed move.call) →
      ∀ move ∈ after.moves, allowed move.call)
    (fun _ => id) (fun _ _ _ left right => right ∘ left) ?_ script uses ⟨pass, []⟩ (by simp)
  intro move may recorded earlier other member
  rcases List.mem_append.1 member with before | last
  · exact earlier other before
  · rw [List.mem_singleton.1 last]
    exact may

end Script

end Stencil
