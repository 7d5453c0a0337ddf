import Mathlib.Data.List.Basic
import Stencil.Proofs.Pass.Finalize
import Stencil.Proofs.Sink.Openings

/-! How far the services of a pass are committed when it is closed: all of them up to the first one
that fails, and none behind it. -/

namespace Stencil

namespace Pass

open Attempt

variable {σ μ ε : Type} {setup : Setup σ} {keys done rest : List TargetKey}
  {before after : Pass σ μ}

/-- Services are committed as far as some of them: these keep their lines and are committed, and
all others are as they were. -/
structure AsFar (done : List TargetKey) (before after : Pass σ μ) : Prop where
  committed : ∀ key ∈ done,
    after.serviceAt key = ⟨(before.serviceAt key).lines, some (ServiceTarget.committedAs key)⟩
  others : ∀ key, key ∉ done → after.serviceAt key = before.serviceAt key
  keys : after.services.keys = before.services.keys

/-- A service that is committed goes one further. -/
theorem AsFar.cons {key : TargetKey} {between : Pass σ μ} (known : key ∈ before.services.keys)
    (put : between.services = before.services.put key
      ⟨(before.serviceAt key).lines, some (ServiceTarget.committedAs key)⟩)
    (apart : key ∉ done) (further : AsFar done between after) : AsFar (key :: done) before after := by
  refine ⟨fun other member => ?_, fun other absent => ?_, ?_⟩
  · by_cases same : other = key
    -- The services that follow leave it as it was committed.
    · rw [same, further.others key apart, serviceAt_put put, if_pos rfl]
    · have inside := (List.mem_cons.1 member).resolve_left same
      rw [further.committed other inside, serviceAt_put put, if_neg same]
  · rw [List.mem_cons, not_or] at absent
    rw [further.others other absent.2, serviceAt_put put, if_neg absent.1]
  · rw [further.keys, put, Table.keys_put, if_pos known]

/-- How committing services in order ends: with the last of them, or with the first one that
fails. -/
inductive Stops (setup : Setup σ) (done : List TargetKey) (before : Pass σ μ) :
    List TargetKey → Except Failure Unit → Pass σ μ → Prop where
  | all {after : Pass σ μ} (committed : completeServices setup done before = (.ok (), after)) :
      Stops setup done before [] (.ok ()) after
  | failed {key : TargetKey} {rest : List TargetKey} {failure : Failure} {between after : Pass σ μ}
      (committed : completeServices setup done before = (.ok (), between))
      (fails : completeService setup key between = (.error failure, after)) :
      Stops setup done before (key :: rest) (.error failure) after

/-- A service that is committed comes before all that is committed after it. -/
theorem Stops.cons {key : TargetKey} {between : Pass σ μ} {result : Except Failure Unit}
    (first : completeService setup key before = (.ok (), between))
    (further : Stops setup done between rest result after) :
    Stops setup (key :: done) before rest result after := by
  cases further with
  | all committed => exact .all ((bind_of_ok first _).trans committed)
  | failed committed fails => exact .failed ((bind_of_ok first _).trans committed) fails

/-- Services that are not committed are committed in order up to the first one that fails; each of
them, the failing one included, adds its own items to what can be seen in the pass, and those behind
add none. -/
theorem completeServices_asFar {view : Pass σ μ → List ε} {adds : TargetKey → List ε}
    (step : ∀ key pass, (pass.serviceAt key).artifact = none →
      view (completeService setup key pass).2 = view pass ++ adds key)
    (distinct : keys.Nodup) (known : ∀ key ∈ keys, key ∈ before.services.keys)
    (uncommitted : ∀ key ∈ keys, (before.serviceAt key).artifact = none) :
    ∃ done rest, keys = done ++ rest ∧
      AsFar done before (completeServices setup keys before).2 ∧
      Stops setup done before rest (completeServices setup keys before).1
        (completeServices setup keys before).2 ∧
      view (completeServices setup keys before).2 =
        view before ++ (done ++ rest.take 1).flatMap adds := by
  -- The first service is committed, or it is the one that fails.
  induction keys generalizing before with
  | nil =>
    refine ⟨[], [], rfl, ⟨by simp, fun _ _ => rfl, rfl⟩, .all rfl, ?_⟩
    simp [completeServices]
  | cons key others ih =>
    obtain ⟨apart, distinct⟩ := List.nodup_cons.1 distinct
    have seen := step key before (uncommitted key List.mem_cons_self)
    have applied := completeService_apply setup key before
    rw [completeServices, bind_apply]
    rcases completed : (before.serviceAt key).complete setup.sink key before.outlet with
      ⟨failure | target, outlet⟩
    -- The first service fails, so none is committed, and it alone adds its items.
    · simp only [completed] at applied
      simp only [applied] at seen ⊢
      refine ⟨[], key :: others, rfl, ⟨by simp, fun _ _ => rfl, rfl⟩, .failed rfl applied, ?_⟩
      simpa using seen
    -- The others find themselves as they were before.
    · simp only [completed] at applied
      obtain rfl := ServiceTarget.complete_eq_ok completed
      simp only [applied] at seen ⊢
      generalize between : Pass.mk outlet before.console before.sources (before.services.put key
        ⟨(before.serviceAt key).lines, some (ServiceTarget.committedAs key)⟩) before.finalized
        before.memory = middle at applied seen ⊢
      have put : middle.services = before.services.put key
          ⟨(before.serviceAt key).lines, some (ServiceTarget.committedAs key)⟩ := by rw [← between]
      have aside : ∀ other ∈ others, middle.serviceAt other = before.serviceAt other := by
        intro other member
        have different : other ≠ key := fun same => apart (same ▸ member)
        rw [serviceAt_put put, if_neg different]
      -- The induction goes on from the middle pass.
      obtain ⟨done, rest, split, asFar, stops, view⟩ := @ih middle distinct
        (fun other member => by
          rw [put, Table.mem_keys_put]
          exact Or.inr (known other (List.mem_cons_of_mem _ member)))
        (fun other member => by
          rw [aside other member]
          exact uncommitted other (List.mem_cons_of_mem _ member))
      -- No key stands twice in the row, so the first is not committed again.
      have later : key ∉ done := fun member => apart (split ▸ List.mem_append_left _ member)
      refine ⟨key :: done, rest, by rw [split]; rfl,
        .cons (known key List.mem_cons_self) put later asFar, stops.cons applied, ?_⟩
      rw [view, seen, List.cons_append, List.flatMap_cons, List.append_assoc]

/-- Services of which some are committed, and which were not before, have the artifacts of these. -/
theorem AsFar.artifacts (asFar : AsFar done before after)
    (split : before.services.keys = done ++ rest)
    (uncommitted : ∀ key ∈ before.services.keys, (before.serviceAt key).artifact = none) :
    after.services.values.filterMap ServiceTarget.artifact =
      done.map ServiceTarget.committedAs := by
  -- The services are those that are found for the keys.
  have found : after.services.values.filterMap ServiceTarget.artifact =
      after.services.keys.filterMap fun key => (after.serviceAt key).artifact :=
    after.services.filterMap_values rfl
  -- No key is both committed and pending.
  have distinct := before.services.nodup
  change before.services.keys.Nodup at distinct
  rw [split] at distinct
  obtain ⟨_, _, disjoint⟩ := List.nodup_append.1 distinct
  rw [found, asFar.keys, split, List.filterMap_append]
  -- Each committed service has its artifact, and each pending one has none.
  have first : done.filterMap (fun key => (after.serviceAt key).artifact) =
      done.map ServiceTarget.committedAs := by
    refine List.filterMap_eq_map_iff_forall_eq_some.2 fun key member => ?_
    rw [asFar.committed key member]
  have second : rest.filterMap (fun key => (after.serviceAt key).artifact) = [] := by
    refine List.filterMap_eq_nil_iff.2 fun key member => ?_
    have later : key ∉ done := fun inside => disjoint key inside key member rfl
    rw [asFar.others key later]
    exact uncommitted key (split ▸ List.mem_append_right _ member)
  rw [first, second, List.append_nil]

end Pass

end Stencil
