import Stencil.Proofs.Script.Follow

/-! Mirrors: attempts that answer the same on related states and leave related states behind, however
they end. -/

namespace Stencil

open Attempt

/-- An attempt mirrors another one if it follows it without ever losing it. -/
abbrev Mirrors {τ υ α : Type} (related : τ → υ → Prop) (leader : Attempt τ α)
    (follower : Attempt υ α) : Prop :=
  Follows related (fun _ => False) leader follower

namespace Mirrors

variable {τ υ α β : Type} {related : τ → υ → Prop}

/-- What agrees on all related states is a mirror. -/
theorem of_agree {leader : Attempt τ α} {follower : Attempt υ α}
    (agree : ∀ state other, related state other →
      (follower other).1 = (leader state).1 ∧ related (leader state).2 (follower other).2) :
    Mirrors related leader follower :=
  ⟨False.elim, fun together => Or.inr (agree _ _ together)⟩

/-- On related states, a mirror answers the same and ends related. -/
theorem agree {leader : Attempt τ α} {follower : Attempt υ α}
    (mirrors : Mirrors related leader follower) {state : τ} {other : υ}
    (together : related state other) :
    (follower other).1 = (leader state).1 ∧ related (leader state).2 (follower other).2 := by
  rcases mirrors.goes together with gone | along
  · exact gone.elim
  · exact along

/-- Changes that keep states related mirror one another. -/
theorem change {step : τ → τ} {step' : υ → υ}
    (kept : ∀ state other, related state other → related (step state) (step' other)) :
    Mirrors related (.change step) (.change step') :=
  of_agree fun state other together => ⟨rfl, kept state other together⟩

/-- What goes on from a state that was read mirrors what goes on from a related one. -/
theorem read {leaders : τ → Attempt τ α} {followers : υ → Attempt υ α}
    (there : ∀ state other, related state other →
      Mirrors related (leaders state) (followers other)) :
    Mirrors related (Attempt.state >>= leaders) (Attempt.state >>= followers) :=
  of_agree fun state other together => (there state other together).agree together

/-- Attempts on parts of larger states mirror one another if they do so on the parts. -/
theorem onPart {σ ρ : Type} {inner : σ → ρ → Prop} {part : τ → σ} {part' : υ → ρ}
    {replace : σ → τ → τ} {replace' : ρ → υ → υ}
    (parts : ∀ state other, related state other → inner (part state) (part' other))
    (replaced : ∀ state other, related state other → ∀ value value', inner value value' →
      related (replace value state) (replace' value' other))
    {leader : Attempt σ α} {follower : Attempt ρ α} (mirrors : Mirrors inner leader follower) :
    Mirrors related (leader.onPart part replace) (follower.onPart part' replace') := by
  -- What the parts answer is the answer, and what they end in is put back.
  refine of_agree fun state other together => ?_
  obtain ⟨answer, along⟩ := mirrors.agree (parts state other together)
  exact ⟨answer, replaced state other together _ _ along⟩

end Mirrors

end Stencil
