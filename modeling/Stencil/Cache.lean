import Stencil.Failure
import Stencil.Table

/-! Caches that build each value once, by recipes that may fail and may ask the cache for more. -/

namespace Stencil

/-- How a value is built: from a state of the builder's own and from values of other keys, whose
failures the recipe may handle. -/
inductive Recipe (σ κ α : Type) where
  | done (value : α)
  | fail (failure : Failure)
  | inspect (next : σ → Recipe σ κ α)
  | update (state : σ) (next : Recipe σ κ α)
  | request (key : κ) (next : Except Failure α → Recipe σ κ α)

/-- A cache: the values built so far in the order in which they were finished, and the builder's
state. -/
structure Cache (σ κ α : Type) where
  stored : Table κ α
  state : σ

/-- The failure of building a key: generation's own kinds pass, all others name the key. -/
def constructionFailure (key : String) (failure : Failure) : Failure :=
  if failure.kind.isGeneration then failure else .notConstructed key failure.kind

namespace Cache

variable {σ κ α : Type}

/-- The cache without a value. -/
def start (state : σ) : Cache σ κ α := ⟨.empty, state⟩

/-- Follows a recipe, given how the values of other keys are obtained. -/
def follow (obtain : κ → Cache σ κ α → Option (Except Failure α × Cache σ κ α)) :
    Recipe σ κ α → Cache σ κ α → Option (Except Failure α × Cache σ κ α)
  | .done value, cache => some (.ok value, cache)
  | .fail failure, cache => some (.error failure, cache)
  | .inspect next, cache => follow obtain (next cache.state) cache
  | .update state next, cache => follow obtain next { cache with state }
  | .request key next, cache =>
    match obtain key cache with
    | none => none
    | some (answer, after) => follow obtain (next answer) after

variable [DecidableEq κ]

/-- Obtains the value of a key: the stored one, or a new one that is stored once it is finished.
There is no answer if recipes ask for one another beyond the given depth. -/
def obtain (recipe : κ → Recipe σ κ α) (nameOf : κ → String) :
    Nat → κ → Cache σ κ α → Option (Except Failure α × Cache σ κ α)
  | depth, key, cache =>
    match cache.stored.find? key with
    | some value => some (.ok value, cache)
    | none =>
      match depth with
      | 0 => none
      | depth + 1 =>
        match follow (obtain recipe nameOf depth) (recipe key) cache with
        | none => none
        | some (.ok value, after) =>
          some (.ok value, { after with stored := after.stored.put key value })
        | some (.error failure, after) =>
          some (.error (constructionFailure (nameOf key) failure), after)

end Cache

end Stencil
