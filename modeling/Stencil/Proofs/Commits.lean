import Stencil.Proofs.Pass.Committed
import Stencil.Proofs.Pass.Requests
import Stencil.Proofs.Script.Alike
import Stencil.Sink.Files

/-! Closing a pass commits its services in the order of their first requests, up to the first one
that fails: a prefix of them is committed, and the sink hears nothing of those behind it. -/

namespace Stencil

open Attempt

variable {σ μ : Type}

namespace Pass

/-- A pass was closed as far as some of its services: these are committed with their lines, the rest
keep theirs, the sources are as they were, and the result tells whether there is a rest. -/
structure ClosedAsFar (setup : Setup σ) (pass : Pass σ μ) (done rest : List TargetKey)
    (result : Except Failure (List Artifact)) (after : Pass σ μ) : Prop where
  order : pass.services.keys = done ++ rest
  committed : ∀ key ∈ done,
    after.serviceAt key = ⟨(pass.serviceAt key).lines, some (ServiceTarget.committedAs key)⟩
  pending : ∀ key ∈ rest, after.serviceAt key = ⟨(pass.serviceAt key).lines, none⟩
  keys : after.services.keys = pass.services.keys
  sources : after.sources = pass.sources
  artifacts : after.artifacts = pass.sources.values.filterMap SourceTarget.artifact ++
    done.map ServiceTarget.committedAs
  finalized : after.finalized = true
  again : finalize setup after = (.error (.closed .pass), after)
  ends : (rest = [] ∧ result = .ok after.artifacts) ∨
    ∃ key behind failure between, rest = key :: behind ∧ result = .error failure ∧
      completeServices setup done { pass with finalized := true } = (.ok (), between) ∧
      completeService setup key between = (.error failure, after)

/-- Committing a service on a watched pass opens its manifest for reading and for writing, and
nothing else. -/
theorem completeService_openings (setup : Setup σ) (key : TargetKey) (pass : Pass (Watched σ) μ)
    (uncommitted : (pass.serviceAt key).artifact = none) :
    (completeService setup.watched key pass).2.outlet.openings =
      pass.outlet.openings ++ ServiceTarget.openings key := by
  -- What is opened does not depend on whether the commit succeeds.
  have opened := ServiceTarget.complete_lengthens setup.sink key uncommitted pass.outlet
  have applied := completeService_apply setup.watched key pass
  rw [applied]
  change ((pass.serviceAt key).complete setup.watched.sink key pass.outlet).2.openings = _ at opened
  rcases completed : (pass.serviceAt key).complete setup.watched.sink key pass.outlet with
    ⟨failure | target, outlet⟩
  · rw [completed] at opened
    exact opened
  · rw [completed] at opened
    exact opened

/-- A pass whose services are committed as far as some of them, and which is closed, was closed as
far as these. -/
theorem AsFar.closed {setup : Setup σ} {pass after : Pass σ μ} {done rest : List TargetKey}
    {result : Except Failure (List Artifact)} (asFar : AsFar done { pass with finalized := true } after)
    (only : OnlyServices { pass with finalized := true } after)
    (split : pass.services.keys = done ++ rest)
    (uncommitted : ∀ key ∈ pass.services.keys, (pass.serviceAt key).artifact = none)
    (ends : (rest = [] ∧ result = .ok after.artifacts) ∨
      ∃ key behind failure between, rest = key :: behind ∧ result = .error failure ∧
        completeServices setup done { pass with finalized := true } = (.ok (), between) ∧
        completeService setup key between = (.error failure, after)) :
    ClosedAsFar setup pass done rest result after where
  order := split
  committed := asFar.committed
  pending key member := by
    -- No key stands in both parts.
    have distinct := pass.services.nodup
    change pass.services.keys.Nodup at distinct
    rw [split] at distinct
    have later : key ∉ done := fun inside =>
      (List.nodup_append.1 distinct).2.2 key inside key member rfl
    have none := uncommitted key (split ▸ List.mem_append_right _ member)
    rw [asFar.others key later]
    exact congrArg (ServiceTarget.mk _) none
  keys := asFar.keys
  sources := only.sources
  artifacts := by
    rw [Pass.artifacts, only.sources, asFar.artifacts split uncommitted]
  finalized := only.finalized
  again := by
    -- Once closed, the pass stays closed.
    have closed : after.finalized = true := only.finalized
    simp only [finalize, bind_apply, checkOpen, closed, if_true]
  ends := ends

/-- Closing a watched pass that is open and has no committed service comes as far as some of its
services, and opens their manifests and that of the first one behind them. -/
theorem finalize_watched (setup : Setup σ) {pass : Pass (Watched σ) μ}
    (opened : pass.finalized = false)
    (uncommitted : ∀ key ∈ pass.services.keys, (pass.serviceAt key).artifact = none) :
    ∃ done rest, ClosedAsFar setup.watched pass done rest (finalize setup.watched pass).1
        (finalize setup.watched pass).2 ∧
      (finalize setup.watched pass).2.outlet.openings =
        pass.outlet.openings ++ (done ++ rest.take 1).flatMap ServiceTarget.openings := by
  -- Each commit opens two destinations, as long as none has failed.
  obtain ⟨done, rest, split, asFar, stops, openings⟩ :=
    @completeServices_asFar (Watched σ) μ _ setup.watched pass.services.keys
      { pass with finalized := true } (fun pass => pass.outlet.openings) ServiceTarget.openings
      (completeService_openings setup) pass.services.nodup (fun _ => id) uncommitted
  refine ⟨done, rest, ?_⟩
  have closing := finalize_closing setup.watched pass
  generalize finalize setup.watched pass = answer at closing ⊢
  obtain ⟨result, after⟩ := answer
  cases closing with
  | refused closed => cases closed.symm.trans opened
  | failed _ committed only =>
    -- The commits have stopped at a service that failed, which the closing passes on.
    rw [committed] at asFar stops openings
    cases stops with
    | @failed key behind _ between _ before fails =>
      refine ⟨asFar.closed only split uncommitted (.inr ?_), openings⟩
      exact ⟨key, behind, _, between, rfl, rfl, before, fails⟩
  | @closed after log _ committed only =>
    rw [committed] at asFar stops openings
    cases stops with
    | all _ =>
      -- The last record in the log is all that comes after the commits.
      have noted : AsFar done { pass with finalized := true }
          { after with outlet := { after.outlet with log } } := ⟨asFar.1, asFar.2, asFar.3⟩
      have spared : OnlyServices { pass with finalized := true }
          { after with outlet := { after.outlet with log } } := ⟨only.1, only.2, only.3, only.4⟩
      exact ⟨noted.closed spared split uncommitted (.inl ⟨rfl, rfl⟩), openings⟩

/-- Where an attempt on a watched pass leads, the attempt that it mirrors leads without the watch. -/
theorem mirrors_watched_eq {α : Type} {leader : Attempt (Pass σ μ) α}
    {follower : Attempt (Pass (Watched σ) μ) α}
    (mirrors : Mirrors (Agree Outlet.Watches) leader follower) {pass after : Pass (Watched σ) μ}
    {result : Except Failure α} (leads : follower pass = (result, after)) :
    leader pass.unwatched = (result, after.unwatched) := by
  obtain ⟨answer, same⟩ := mirrors_watched mirrors (rfl : pass.unwatched = _)
  rw [leads] at answer same
  exact Prod.ext answer.symm same.symm

/-- What a watched pass was closed as far as, the pass is closed as far as without the watch. -/
theorem ClosedAsFar.unwatched {setup : Setup σ} {pass after : Pass (Watched σ) μ}
    {done rest : List TargetKey} {result : Except Failure (List Artifact)}
    (closed : ClosedAsFar setup.watched pass done rest result after) :
    ClosedAsFar setup pass.unwatched done rest result after.unwatched where
  order := closed.order
  committed := closed.committed
  pending := closed.pending
  keys := closed.keys
  sources := closed.sources
  artifacts := closed.artifacts
  finalized := closed.finalized
  again := mirrors_watched_eq (finalize_mirrors setup.watched_alike) closed.again
  ends := by
    -- Each commit on the watched pass is one on the pass.
    refine closed.ends.imp id ?_
    rintro ⟨key, behind, failure, between, split, failed, committed, fails⟩
    refine ⟨key, behind, failure, between.unwatched, split, failed, ?_, ?_⟩
    · exact mirrors_watched_eq (completeServices_mirrors setup.watched_alike done) committed
    · exact mirrors_watched_eq (completeService_mirrors setup.watched_alike key) fails

/-- Closing a pass that a script has built commits a prefix of its services in the order of their
first requests, whatever the sink does: all of them, or those before the first one that fails. The
sink, when it is watched, was asked for the manifests of this prefix and of the service that fails,
one after the other, and for nothing else. -/
theorem finalize_commits_until_failure (setup : Setup σ) {script : Script μ}
    (unclosing : script.Uses (· ≠ .finalize)) (state : σ) (diagnostics : List Diagnostic)
    (memory : μ) :
    let start := Pass.start state diagnostics memory
    let pass := (script.run setup start).2
    let closed := finalize setup pass
    let watched := finalize setup.watched pass.watched
    pass.services.keys = Move.requestedServices (script.moves setup start) ∧
      (watched.1 = closed.1 ∧ watched.2.unwatched = closed.2) ∧
      ∃ done rest, ClosedAsFar setup pass done rest closed.1 closed.2 ∧
        watched.2.outlet.openings = (done ++ rest.take 1).flatMap ServiceTarget.openings := by
  intro start pass closed watched
  obtain ⟨opened, order⟩ := Script.recorded_ordered setup unclosing state diagnostics memory
  have mirrors := mirrors_watched (finalize_mirrors setup.watched_alike) (unwatched_watched pass)
  refine ⟨order, mirrors, ?_⟩
  -- The script has left its pass open, so no service is committed before it is closed.
  have collected : Collected (script.moves setup start) pass := by
    have played := Script.run_moves setup script start
    change pass.finalized = false at opened
    change pass = _ at played
    rw [played] at opened ⊢
    exact collected_play opened
  obtain ⟨done, rest, asFar, openings⟩ := @finalize_watched σ μ setup pass.watched opened
    fun key _ => collected.uncommitted key
  -- What holds of the watched pass holds of the pass itself, since both come to the same.
  have plain := asFar.unwatched
  change ClosedAsFar setup pass done rest watched.1 watched.2.unwatched at plain
  rw [mirrors.1, mirrors.2] at plain
  exact ⟨done, rest, plain, openings⟩

/-- A setup over files. -/
def filesSetup : Setup FileState :=
  ⟨(FileSettings.mk (.ofString "src") (.ofString "out") false .utf8).sink,
    ⟨".py", Layout.normalizer⟩, fun _ _ => none⟩

/-- A script whose second service has its manifest below that of the first one, where no directory
can be. -/
def blockedServices : Script Unit :=
  .source "p" "m" (fun _ => .service "a" (fun _ => .done "x") (.done "text"))
    (.service "a/b" (fun _ => .done "y")
      (.service "c" (fun _ => .done "z") (.service "a" (fun _ => .done "w") (.done ""))))

/-- Of three services the first one is committed, and the second one and the third one are not. -/
theorem blocked_services_wait :
    let start : Pass FileState Unit := .start (.start .fresh) [] ()
    let pass := (blockedServices.run filesSetup start).2
    let closed := finalize filesSetup pass
    blockedServices.Uses (· ≠ .finalize) ∧
      closed.2.artifacts = [⟨⟨"p", "m"⟩, .source, false, false⟩,
        ServiceTarget.committedAs (serviceKey "a")] ∧
      pass.services.keys = [serviceKey "a", serviceKey "a/b", serviceKey "c"] ∧
      ∃ done rest, ClosedAsFar filesSetup pass done rest closed.1 closed.2 ∧
        (finalize filesSetup.watched pass.watched).2.outlet.openings =
          (done ++ rest.take 1).flatMap ServiceTarget.openings := by
  have unclosing : blockedServices.Uses (· ≠ .finalize) := by simp [blockedServices, Script.Uses]
  refine ⟨unclosing, by decide +kernel, by decide +kernel, ?_⟩
  exact (finalize_commits_until_failure filesSetup unclosing (.start .fresh) [] ()).2.2

end Pass

end Stencil
