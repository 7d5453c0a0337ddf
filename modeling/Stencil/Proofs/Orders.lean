import Stencil.Proofs.Build
import Stencil.Proofs.Pass.Balance
import Stencil.Proofs.Pass.Committed
import Stencil.Proofs.Pass.Opened
import Stencil.Proofs.Pass.Requested

/-! The two orders of a build that is closed with success: its artifacts stand in the order of the first
requests, sources before services, and the paths it lists as written stand in the order in which commits
opened them. -/

namespace Stencil

open Attempt

variable {σ μ : Type}

namespace Pass

/-- The artifacts of committed sources bear the names of their sources, and those that are fresh belong
to sources whose destinations were opened. -/
def Named (opened : List TargetKey) (pass : Pass σ μ) : Prop :=
  ∀ key artifact, (pass.sourceAt key).artifact = some artifact →
    artifact.key = key ∧ artifact.kind = .source ∧ (artifact.isFresh = true → key ∈ opened)

/-- A text that was written was written to a destination that was opened. -/
theorem openWrite_of_written {sink : Sink σ} {place : Place} {package name text : String}
    {outlet after : Outlet σ}
    (wrote : sink.writeTo place package name [text] outlet = (.ok (), after)) :
    (sink.openWrite place package name outlet.state).1.isOk = true := by
  obtain ⟨result, state, log, calls, same, block⟩ :=
    sink.writeTo_block place package name text outlet
  rw [wrote] at same
  obtain ⟨rfl, _⟩ := Prod.mk.inj same
  -- A text is written only to a stream that was opened.
  cases block with
  | finished opened used closed =>
    rw [opened]
    rfl

/-- What a source is committed as bears its name, and is fresh only if its destination was opened. -/
theorem artifact_of_emit {setup : Setup σ} {key : TargetKey} {text shown : String}
    {pass : Pass σ μ} {artifact : Artifact} {outlet : Outlet σ}
    (uncommitted : (pass.sourceAt key).committed = false)
    (formatted : setup.style.formatter ((pass.sourceAt key).content ++ text) = .ok shown)
    (emitted : SourceTarget.emit setup.sink key (key.name ++ setup.style.suffix) shown pass.outlet =
      (.ok artifact, outlet)) :
    artifact.key = key ∧ artifact.kind = .source ∧
      (artifact.isFresh = true → key ∈ (Move.settleSource key text : Move μ).opens setup pass) := by
  have emission := SourceTarget.emission_of_emit emitted
  -- Only a fresh artifact is one whose destination was opened.
  cases emission with
  | fresh wrote =>
    have opened := openWrite_of_written wrote
    have formats : (setup.style.formatter ((pass.sourceAt key).content ++ text)).isOk = true := by
      rw [formatted]
      rfl
    exact ⟨rfl, rfl, fun _ => by simp [Move.opens, uncommitted, formats, opened]⟩
  | regenerated => exact ⟨rfl, rfl, fun isFresh => by simp [Artifact.isFresh] at isFresh⟩
  | collided => exact ⟨rfl, rfl, fun isFresh => by simp [Artifact.isFresh] at isFresh⟩

/-- A move keeps the names of all artifacts, and opens the destinations of those that it adds as
fresh ones. -/
theorem Named.run {opened : List TargetKey} {pass : Pass σ μ} (named : Named opened pass)
    (setup : Setup σ) (move : Move μ) :
    Named (opened ++ move.opens setup pass) (move.run setup pass).2 := by
  -- What was opened before counts as well.
  have kept : ∀ {key artifact}, (pass.sourceAt key).artifact = some artifact →
      artifact.key = key ∧ artifact.kind = .source ∧
        (artifact.isFresh = true → key ∈ opened ++ move.opens setup pass) := by
    intro key artifact here
    obtain ⟨name, kind, fresh⟩ := named key artifact here
    exact ⟨name, kind, fun isFresh => List.mem_append_left _ (fresh isFresh)⟩
  intro key artifact here
  -- Only a settling of this very source can give it an artifact.
  by_cases settles : ∃ text, move = .settleSource key text
  · obtain ⟨text, rfl⟩ := settles
    have settling := settleSource_settling setup key text pass
    change ((settleSource setup key text pass).2.sourceAt key).artifact = some artifact at here
    generalize settleSource setup key text pass = answer at settling here
    obtain ⟨result, after⟩ := answer
    cases settling with
    | repeated => exact kept here
    | @committed _ made _ _ uncommitted formatted emitted =>
      rw [sourceAt_put rfl, if_pos rfl] at here
      cases here
      obtain ⟨name, kind, fresh⟩ := artifact_of_emit uncommitted formatted emitted
      exact ⟨name, kind, fun isFresh => List.mem_append_right _ (fresh isFresh)⟩
    -- Where the commit fails, there is no artifact.
    | unformatted | failed =>
      rw [sourceAt_put rfl, if_pos rfl] at here
      cases here
  · rw [(Move.run_frame setup move pass).sources key fun text same => settles ⟨text, same⟩] at here
    exact kept here

/-- Along a row of moves, all artifacts keep their names, and fresh ones belong to destinations that
were opened. -/
theorem Named.play {opened : List TargetKey} {pass : Pass σ μ} (named : Named opened pass)
    (setup : Setup σ) (moves : List (Move μ)) :
    Named (opened ++ Move.opened setup moves pass) (Move.play setup moves pass) := by
  induction moves generalizing opened pass with
  | nil => rwa [Move.opened, List.append_nil]
  -- What the first move has opened stands in front of what the others open.
  | cons move rest ih =>
    rw [Move.opened, ← List.append_assoc]
    exact ih (named.run setup move)

/-- The artifacts of sources stand in the order of the sources, one for each source that is
committed. -/
theorem Named.artifacts {opened : List TargetKey} {pass : Pass σ μ} (named : Named opened pass) :
    (pass.sources.values.filterMap SourceTarget.artifact).map Artifact.key =
        pass.sources.keys.filter (fun key => (pass.sourceAt key).committed) ∧
      ∀ artifact ∈ pass.sources.values.filterMap SourceTarget.artifact,
        artifact.kind = .source ∧ (artifact.isFresh = true → artifact.key ∈ opened) := by
  have found : pass.sources.values.filterMap SourceTarget.artifact =
      pass.sources.keys.filterMap fun key => (pass.sourceAt key).artifact :=
    pass.sources.filterMap_values rfl
  rw [found]
  constructor
  -- Under each key, there is an artifact of this name exactly if the source is committed.
  · induction pass.sources.keys with
    | nil => rfl
    | cons key rest ih =>
      cases here : (pass.sourceAt key).artifact with
      | none => simp [here, SourceTarget.committed, ih]
      | some artifact => simp [here, SourceTarget.committed, ih, (named key artifact here).1]
  -- Each artifact stands under a key, whose name it bears.
  · intro artifact member
    obtain ⟨key, _, here⟩ := List.mem_filterMap.1 member
    obtain ⟨name, kind, fresh⟩ := named key artifact here
    exact ⟨kind, fun isFresh => name ▸ fresh isFresh⟩

/-- Services that are all committed have their paths listed in order. -/
theorem completeServices_written {settings : FileSettings} {setup : Setup FileState}
    (files : setup.sink = settings.sink) {keys : List TargetKey} {before after : Pass FileState μ}
    (committed : completeServices setup keys before = (.ok (), after)) :
    after.outlet.state.written = before.outlet.state.written ++ keys.map settings.servicePath := by
  induction keys generalizing before with
  | nil =>
    cases committed
    simp
  | cons key rest ih =>
    -- The first service is committed, and the others behind it.
    obtain ⟨_, between, first, others⟩ := bind_eq_ok.1 committed
    have committing := completeService_committing files key before
    rw [first] at committing
    -- A manifest that was written has its path listed.
    have listed : between.outlet.state.written =
        before.outlet.state.written ++ [settings.servicePath key] := by
      cases committing with
      | written _ writing =>
        rcases writing.listed with ⟨_, _, listed⟩ | ⟨failed, _⟩
        · exact listed
        · exact absurd rfl failed
    rw [ih others, listed, List.map_cons, List.append_assoc]
    rfl

/-- Services that are all committed, and were not before, are the artifacts of services, in order. -/
theorem completeServices_artifacts {setup : Setup σ} {before after : Pass σ μ}
    (uncommitted : ∀ key, (before.serviceAt key).artifact = none)
    (committed : completeServices setup before.services.keys before = (.ok (), after)) :
    after.services.values.filterMap ServiceTarget.artifact =
      before.services.keys.map ServiceTarget.committedAs := by
  obtain ⟨done, rest, split, asFar, stops, _⟩ :=
    @completeServices_asFar σ μ TargetKey setup before.services.keys before (fun _ => [])
      (fun _ => []) (fun _ _ _ => rfl) before.services.nodup (fun _ => id)
      fun key _ => uncommitted key
  rw [committed] at asFar stops
  -- Had one of them failed, they would not have been committed.
  cases stops with
  | all _ =>
    rw [asFar.artifacts split fun key _ => uncommitted key, split, List.append_nil]

/-- A pass that is closed with success, and that had no service committed before, keeps its sources,
lists all its services behind them, and has their paths listed behind those of the sources. -/
theorem closing_adds_services {settings : FileSettings} {setup : Setup FileState}
    (files : setup.sink = settings.sink) {pass last : Pass FileState μ} {artifacts : List Artifact}
    (uncommitted : ∀ key, (pass.serviceAt key).artifact = none)
    (closes : finalize setup pass = (.ok artifacts, last)) :
    last.artifacts = artifacts ∧ (∀ key, last.sourceAt key = pass.sourceAt key) ∧
      artifacts = pass.sources.values.filterMap SourceTarget.artifact ++
        pass.services.keys.map ServiceTarget.committedAs ∧
      last.outlet.state.written =
        pass.outlet.state.written ++ pass.services.keys.map settings.servicePath := by
  have closing := closing_of_finalize closes
  cases closing with
  | @closed after log isOpen committed only =>
    -- The services are committed on a pass that counts as closed already.
    have sources : after.sources = pass.sources := only.sources
    -- Each commit lists one path, and each service has its artifact then.
    have listed := completeServices_written files committed
    have made : after.services.values.filterMap ServiceTarget.artifact =
        pass.services.keys.map ServiceTarget.committedAs :=
      @completeServices_artifacts FileState μ setup { pass with finalized := true } after
        uncommitted committed
    refine ⟨rfl, ?_, ?_, listed⟩
    · intro key
      rw [sourceAt, sourceAt, sources]
    · rw [Pass.artifacts, sources, made]

end Pass

namespace Build

open Pass

/-- A build whose script does not close its pass, and which is closed with success after that, reports
two orders. The calls of the script form one forest. The artifacts are those of its sources that are
committed, in the order in which they were first requested, a call before the calls inside its body,
each of them once; behind them come all services in the order of their first requests. The paths
listed as written are those of the sources whose destinations commits have opened, in the order of
these commits, a call behind the calls inside its body, with every fresh source among them; behind
them come the paths of all services in the order of their first requests. -/
theorem reports_two_orders (build : Build μ) (unclosing : build.script.Uses (· ≠ .finalize))
    {artifacts : List Artifact}
    (closes : Pass.finalize build.setup build.closing = (.ok artifacts, build.last)) :
    let opened := Move.opened build.setup build.moves build.start
    ∃ (forest : CallForest μ) (sources : List Artifact),
      (∀ other : CallForest μ, build.moves = other.moves ↔ other = forest) ∧
      build.last.artifacts = artifacts ∧
      artifacts = sources ++ forest.services.eraseDups.map ServiceTarget.committedAs ∧
      sources.map Artifact.key = forest.requested.eraseDups.filter
        (fun key => (build.last.sourceAt key).committed) ∧
      (∀ artifact ∈ sources,
        artifact.kind = .source ∧ (artifact.isFresh = true → artifact.key ∈ opened)) ∧
      build.last.outlet.state.written =
        opened.map (build.settings.sourcePath build.style.suffix) ++
          forest.services.eraseDups.map build.settings.servicePath ∧
      opened.Sublist forest.settled := by
  intro opened
  obtain ⟨forest, same⟩ := (Script.exists_forest build.setup unclosing
    (show build.start.finalized = false from rfl)).2
  change build.moves = forest.moves at same
  have played := build.closing_eq
  unfold Build.after at played
  -- What the script leaves: its sources and services in the order of their requests.
  have requested := forest.play_requested build.setup
    (show Pass.Requested [] build.start from ⟨rfl, rfl⟩)
  rw [← same, ← played, List.nil_append] at requested
  have services : build.closing.services.keys = forest.services.eraseDups := by
    rw [← forest.requestedServices_moves, ← same]
    exact (Script.recorded_ordered build.setup unclosing _ _ _).2
  have named : Named opened build.closing := by
    have begun : Named [] build.start := fun key artifact here => by cases here
    rw [played]
    exact begun.play build.setup build.moves
  have files : build.setup.sink = build.settings.sink := rfl
  have written : build.closing.outlet.state.written =
      opened.map (build.settings.sourcePath build.style.suffix) := by
    have unclosed : .finalize ∉ build.moves := same ▸ forest.finalize_not_mem
    rw [played, Move.play_written files unclosed]
    rfl
  have collected : Collected build.moves build.closing := by
    rw [played]
    exact collected_play (played ▸ requested.opened)
  -- A commit takes place where its call settles, and at most one of each source opens.
  have sublist : opened.Sublist forest.settled := by
    have all := forest.opened_sublist build.setup build.start
    rwa [← same] at all
  -- Closing the pass adds the services behind them.
  obtain ⟨answer, still, artifacts_eq, listed⟩ :=
    closing_adds_services files collected.uncommitted closes
  -- A row of moves comes from one forest only.
  have alone : ∀ other : CallForest μ, build.moves = other.moves ↔ other = forest := by
    intro other
    rw [same, CallForest.moves_injective.eq_iff, eq_comm]
  refine ⟨forest, build.closing.sources.values.filterMap SourceTarget.artifact, alone, answer, ?_, ?_,
    named.artifacts.2, ?_, sublist⟩
  · rw [artifacts_eq, services]
  -- Closing the pass leaves the sources committed as they were.
  · rw [named.artifacts.1, requested.keys]
    refine List.filter_congr fun key _ => ?_
    exact congrArg SourceTarget.committed (still key).symm
  · rw [listed, written, services]

/-- The disk of an earlier build, with one source. -/
def earlierSource : Disk :=
  (Disk.fresh.writeFile (.ofString "src/old.py") "o\n".toUTF8).2

/-- A build whose first call fails, with a call inside its body, and is made again at last; one of its
sources is there already. -/
def interrupted : Build Unit where
  settings := ⟨.ofString "src", .ofString "res", true, .utf8⟩
  style := ⟨".py", Layout.normalizer⟩
  look := fun _ _ => none
  script := .recover
    (.source "" "outer" (fun _ => .service "J" (fun _ => .done "x")
      (.source "" "inner" (fun _ => .done "i") (.fail .wrongType))) (.done ""))
    fun _ => .source "" "old" (fun _ => .done "o") (.service "I" (fun _ => .done "y")
      (.source "" "outer" (fun _ => .source "" "last" (fun _ => .done "l") (.done "t")) (.done "")))
  disk := earlierSource
  diagnostics := []
  memory := ()

/-- The outer source comes first among the artifacts, and last among the sources that were written. -/
theorem interrupted_orders :
    let sources := [("outer", false), ("inner", false), ("old", true), ("last", false)].map
      fun (name, regenerated) => (⟨⟨"", name⟩, .source, regenerated, false⟩ : Artifact)
    let services := ["J", "I"].map Pass.serviceKey
    interrupted.script.Uses (· ≠ .finalize) ∧
      interrupted.last.artifacts = sources ++ services.map ServiceTarget.committedAs ∧
      interrupted.last.outlet.state.written =
        ["src/inner.py", "src/last.py", "src/outer.py", "res/META-INF/services/J",
          "res/META-INF/services/I"].map Path.ofString ∧
      ∃ forest : CallForest Unit, interrupted.moves = forest.moves ∧
        (Move.opened interrupted.setup interrupted.moves interrupted.start).Sublist
          forest.settled := by
  intro sources services
  have unclosing : interrupted.script.Uses (· ≠ .finalize) := by
    simp [interrupted, Script.Uses]
  have closes : interrupted.Closes := by decide +kernel
  refine ⟨unclosing, by decide +kernel, by decide +kernel, ?_⟩
  -- The forest is the one that the general statement names.
  obtain ⟨artifacts, answer⟩ := closes.answer
  obtain ⟨forest, _, same, _, _, _, _, _, sublist⟩ :=
    reports_two_orders interrupted unclosing answer
  exact ⟨forest, (same forest).2 rfl, sublist⟩

end Build

end Stencil
