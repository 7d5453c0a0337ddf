import Stencil.Attempt

/-! Laws of attempts: what each of them answers from a state, and where it leaves the state. -/

namespace Stencil

/-- Results are told apart by what they hold. -/
instance exceptDecidableEq {ε α : Type} [DecidableEq ε] [DecidableEq α] :
    DecidableEq (Except ε α)
  | .ok first, .ok second => decidable_of_iff (first = second) (by simp)
  | .error first, .error second => decidable_of_iff (first = second) (by simp)
  | .ok _, .error _ => .isFalse nofun
  | .error _, .ok _ => .isFalse nofun

@[simp] theorem mapError_ok {α ε δ : Type} (change : ε → δ) (value : α) :
    (.ok value : Except ε α).mapError change = .ok value := rfl

@[simp] theorem mapError_error {α ε δ : Type} (change : ε → δ) (error : ε) :
    (.error error : Except ε α).mapError change = .error (change error) := rfl

namespace Attempt

variable {σ α β : Type}

@[simp] theorem pure_apply (value : α) (state : σ) :
    (pure value : Attempt σ α) state = (.ok value, state) := rfl

@[simp] theorem stop_apply (failure : Failure) (state : σ) :
    (stop failure : Attempt σ α) state = (.error failure, state) := rfl

@[simp] theorem state_apply (current : σ) :
    (Attempt.state : Attempt σ σ) current = (.ok current, current) := rfl

@[simp] theorem change_apply (step : σ → σ) (state : σ) :
    change step state = (.ok (), step state) := rfl

@[simp] theorem ofExcept_apply (result : Except Failure α) (state : σ) :
    ofExcept result state = (result, state) := rfl

@[simp] theorem outcome_apply (attempt : Attempt σ α) (state : σ) :
    attempt.outcome state = (.ok (attempt state).1, (attempt state).2) := rfl

/-- A sequence goes on from the value and the state of its first part. -/
theorem bind_apply (attempt : Attempt σ α) (next : α → Attempt σ β) (state : σ) :
    (attempt >>= next) state =
      match attempt state with
      | (.ok value, after) => next value after
      | (.error failure, after) => (.error failure, after) := rfl

/-- A sequence whose first part succeeds is its second part. -/
theorem bind_of_ok {attempt : Attempt σ α} {state after : σ} {value : α}
    (done : attempt state = (.ok value, after)) (next : α → Attempt σ β) :
    (attempt >>= next) state = next value after := by
  -- The first part hands on its value and its state.
  rw [bind_apply, done]

/-- A sequence succeeds exactly if both of its parts do. -/
theorem bind_eq_ok {attempt : Attempt σ α} {next : α → Attempt σ β} {state last : σ} {value : β} :
    (attempt >>= next) state = (.ok value, last) ↔
      ∃ middle between, attempt state = (.ok middle, between) ∧
        next middle between = (.ok value, last) := by
  -- The first part decides whether there is a second one.
  rw [bind_apply]
  rcases attempt state with ⟨failure | middle, between⟩
  · simp
  · constructor
    · intro later
      exact ⟨middle, between, rfl, later⟩
    · rintro ⟨_, _, same, later⟩
      cases same
      exact later

/-- An attempt leads from every state to one that is related to it. -/
def Within (related : σ → σ → Prop) (attempt : Attempt σ α) : Prop :=
  ∀ state, related state (attempt state).2

/-- A sequence stays within a relation that both of its parts stay within. -/
theorem Within.bind {related : σ → σ → Prop}
    (trans : ∀ first second third, related first second → related second third →
      related first third)
    {attempt : Attempt σ α} {next : α → Attempt σ β} (here : Within related attempt)
    (there : ∀ value, Within related (next value)) : Within related (attempt >>= next) := by
  -- The second part starts where the first one ends, if there is a second one.
  intro state
  have begun := here state
  rw [bind_apply]
  generalize attempt state = first at begun ⊢
  obtain ⟨failure | value, after⟩ := first
  · exact begun
  · exact trans _ _ _ begun (there value after)

end Attempt

end Stencil
