import Stencil.Failure

/-! Attempts: operations on a state that may fail, whose failures keep the changes made before. -/

namespace Stencil

/-- An operation on a state that may fail; a failure keeps the changes made before it. -/
def Attempt (σ α : Type) : Type := σ → Except Failure α × σ

namespace Attempt

variable {σ τ α β : Type}

/-- Runs an attempt from a state. -/
def run (attempt : Attempt σ α) (state : σ) : Except Failure α × σ := attempt state

/-- Succeeds without a change. -/
def succeed (value : α) : Attempt σ α := fun state => (.ok value, state)

/-- Fails without a change. -/
def stop (failure : Failure) : Attempt σ α := fun state => (.error failure, state)

/-- Goes on with the value of an attempt, unless it failed. -/
def andThen (attempt : Attempt σ α) (next : α → Attempt σ β) : Attempt σ β := fun state =>
  match attempt state with
  | (.ok value, after) => next value after
  | (.error failure, after) => (.error failure, after)

instance : Monad (Attempt σ) where
  pure := succeed
  bind := andThen

instance : LawfulMonad (Attempt σ) :=
  LawfulMonad.mk' _
    (by
      -- A finished attempt is passed on as it is.
      intro α attempt
      funext state
      simp only [Functor.map, andThen, Function.comp, succeed, id]
      split <;> simp_all)
    (by intros; rfl)
    (by
      -- The first failure decides on either side.
      intro α β γ attempt first second
      funext state
      simp only [bind, andThen]
      cases attempt state with
      | mk result after => cases result <;> rfl)

/-- Reads the state. -/
def state : Attempt σ σ := fun current => (.ok current, current)

/-- Changes the state. -/
def change (step : σ → σ) : Attempt σ Unit := fun current => (.ok (), step current)

/-- Takes over a result that needs no state. -/
def ofExcept (result : Except Failure α) : Attempt σ α := fun current => (result, current)

/-- Turns a failure into a value. -/
def outcome (attempt : Attempt σ α) : Attempt σ (Except Failure α) := fun current =>
  match attempt current with
  | (result, after) => (.ok result, after)

/-- Runs an attempt on a part of a larger state. -/
def onPart (part : τ → σ) (replace : σ → τ → τ) (attempt : Attempt σ α) : Attempt τ α :=
  fun whole =>
    match attempt (part whole) with
    | (result, after) => (result, replace after whole)

end Attempt

end Stencil
