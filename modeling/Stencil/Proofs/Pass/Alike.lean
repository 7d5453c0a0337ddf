import Stencil.Proofs.Pass.Operations
import Stencil.Proofs.Sink.Watched

/-! Setups that are alike: where writing to and reading from two sinks mirror one another, so do all
operations on a pass, all moves and all scripts. -/

namespace Stencil

open Attempt

variable {σ υ μ α : Type} {related : Outlet σ → Outlet υ → Prop}

/-- Two setups are alike on related outlets: they format alike, they see the same files, and their
sinks are written to and read from alike. -/
structure Setup.Alike (related : Outlet σ → Outlet υ → Prop) (first : Setup σ) (second : Setup υ) :
    Prop where
  style : second.style = first.style
  look : ∀ path outlet other, related outlet other →
    first.look path outlet.state = second.look path other.state
  note : ∀ entry, Mirrors related (Outlet.note entry) (Outlet.note entry)
  report : ∀ severity message,
    Mirrors related (Outlet.report severity message) (Outlet.report severity message)
  write : ∀ place package name texts, Mirrors related
    (first.sink.writeTo place package name texts) (second.sink.writeTo place package name texts)
  read : ∀ place package name, Mirrors related
    (first.sink.readFrom place package name) (second.sink.readFrom place package name)

/-- Two passes agree if their outlets are related and everything else is the same. -/
structure Pass.Agree (related : Outlet σ → Outlet υ → Prop) (pass : Pass σ μ) (other : Pass υ μ) :
    Prop where
  outlet : related pass.outlet other.outlet
  console : other.console = pass.console
  sources : other.sources = pass.sources
  services : other.services = pass.services
  finalized : other.finalized = pass.finalized
  memory : other.memory = pass.memory

namespace Setup.Alike

variable {first : Setup σ} {second : Setup υ}

/-- Looking for a text at the destination of a source mirrors itself. -/
theorem holdsAlready (alike : Alike related first second) (key : TargetKey)
    (fileName text : String) :
    Mirrors related (SourceTarget.holdsAlready first.sink key fileName text)
      (SourceTarget.holdsAlready second.sink key fileName text) := by
  -- What is read decides about the answer, and a failure is noted.
  refine (alike.read .sources "" (key.packagePath ++ fileName)).outcome.bind fun answer => ?_
  cases answer with
  | ok existing => exact .same (.ok (existing == text))
  | error failure => exact (alike.note _).bind fun _ => .same (.ok false)

/-- Settling a destination that counts as created mirrors itself. -/
theorem settle (alike : Alike related first second) (key : TargetKey) (fileName text : String)
    (reason : Failure) :
    Mirrors related (SourceTarget.settle first.sink key fileName text reason)
      (SourceTarget.settle second.sink key fileName text reason) := by
  refine (alike.holdsAlready key fileName text).bind fun same => ?_
  -- What was read back decides which report is made.
  cases same with
  | true => exact (alike.report _ _).bind fun _ => .same (.ok _)
  | false => exact (alike.report _ _).bind fun _ => .same (.ok _)

/-- Writing the text of a source mirrors itself. -/
theorem emitSource (alike : Alike related first second) (key : TargetKey)
    (fileName text : String) :
    Mirrors related (SourceTarget.emit first.sink key fileName text)
      (SourceTarget.emit second.sink key fileName text) := by
  -- The kind of a failure decides how it goes on.
  refine (alike.write .sources key.package fileName [text]).outcome.bind fun answer => ?_
  cases answer with
  | ok _ => exact .same (.ok _)
  | error failure =>
    simp only
    split
    · exact alike.settle key fileName text failure
    · split
      · exact .same (.error _)
      · exact .same (.error _)

/-- Committing a source mirrors itself. -/
theorem completeSource (alike : Alike related first second) (key : TargetKey)
    (target : SourceTarget) :
    Mirrors related (target.complete first.sink first.style key)
      (target.complete second.sink second.style key) := by
  unfold SourceTarget.complete
  rw [alike.style]
  -- Whether it is committed already does not depend on the sink.
  have emits : Mirrors related _ _ := (Follows.same (first.style.formatter target.content)).bind
    fun text => (alike.emitSource key (key.name ++ first.style.suffix) text).bind
      fun artifact => (alike.note (.debug "codegen.writers"
        s!"Committed source file {key.toText}")).bind
        fun _ => .same (.ok { target with artifact := some artifact })
  cases target.committed with
  | true => exact .same (.error _)
  | false => exact emits

/-- Reading the entries of an earlier manifest mirrors itself. -/
theorem existingEntries (alike : Alike related first second) (key : TargetKey) :
    Mirrors related (ServiceTarget.existingEntries first.sink key)
      (ServiceTarget.existingEntries second.sink key) := by
  refine (alike.read .classes key.package key.name).outcome.bind fun answer => ?_
  -- Both sides read the same, or note the same failure.
  cases answer with
  | ok existing => exact .same (.ok (Manifest.kept existing))
  | error failure => exact (alike.note _).bind fun _ => .same (.ok [])

/-- Writing the entries of a manifest mirrors itself. -/
theorem emitService (alike : Alike related first second) (key : TargetKey)
    (entries : List String) :
    Mirrors related (ServiceTarget.emit first.sink key entries)
      (ServiceTarget.emit second.sink key entries) := by
  refine (alike.write .classes key.package key.name (entries.map Manifest.line)).outcome.bind
    fun answer => ?_
  -- Both sides name the same failure anew.
  cases answer with
  | ok _ => exact .same (.ok ())
  | error failure =>
    simp only
    split
    · exact .same (.error _)
    · exact .same (.error _)

/-- Committing a service mirrors itself. -/
theorem completeService (alike : Alike related first second) (key : TargetKey)
    (target : ServiceTarget) :
    Mirrors related (target.complete first.sink key) (target.complete second.sink key) := by
  unfold ServiceTarget.complete
  -- What was read is merged with the lines of the service, on either side.
  have emits : Mirrors related _ _ := (alike.existingEntries key).bind fun earlier =>
    let entries := Manifest.merge earlier target.lines
    (alike.emitService key entries).bind fun _ =>
      (alike.note (.debug "codegen.writers"
        s!"Committed service file {key.toText} with {entries.length} entries")).bind fun _ =>
        .same (.ok { target with artifact := some ⟨key, .service, false, false⟩ })
  cases target.completed with
  | true => exact .same (.error _)
  | false => exact emits

end Setup.Alike

namespace Pass

open Setup

/-- An attempt on the outlet of a pass mirrors its own mirror. -/
theorem onOutlet_mirrors {leader : Attempt (Outlet σ) α} {follower : Attempt (Outlet υ) α}
    (mirrors : Mirrors related leader follower) :
    Mirrors (Agree (μ := μ) related) (onOutlet leader) (onOutlet follower) := by
  -- Only the outlets are replaced.
  refine mirrors.onPart (fun _ _ agree => agree.outlet) ?_
  intro pass other agree outlet outlet' along
  exact { agree with outlet := along }

/-- A pass refuses to go on exactly if one that agrees with it does. -/
theorem checkOpen_mirrors :
    Mirrors (Agree related) (checkOpen : Attempt (Pass σ μ) Unit) checkOpen := by
  -- Passes that agree are both closed or both open.
  refine Mirrors.of_agree fun pass other agree => ?_
  unfold checkOpen
  rw [agree.finalized]
  cases pass.finalized with
  | true => exact ⟨rfl, agree⟩
  | false => exact ⟨rfl, agree⟩

/-- The same source is stored in both passes. -/
theorem storeSource_mirrors (key : TargetKey) (target : SourceTarget) :
    Mirrors (Agree (μ := μ) related) (storeSource key target) (storeSource key target) :=
  Mirrors.change fun _ _ agree => { agree with sources := by rw [agree.sources] }

/-- The same service is stored in both passes. -/
theorem storeService_mirrors (key : TargetKey) (target : ServiceTarget) :
    Mirrors (Agree (μ := μ) related) (storeService key target) (storeService key target) :=
  Mirrors.change fun _ _ agree => { agree with services := by rw [agree.services] }

variable {first : Setup σ} {second : Setup υ}

/-- Requesting a source mirrors itself. -/
theorem requestSource_mirrors (alike : Alike related first second)
    (package name : Option String) :
    Mirrors (Agree (μ := μ) related) (requestSource package name) (requestSource package name) := by
  -- A target is built on both sides, or on neither.
  refine checkOpen_mirrors.bind fun _ => (Follows.same _).bind fun key => ?_
  refine Mirrors.read fun pass other agree => ?_
  rw [agree.sources]
  cases pass.sources.contains key with
  | true => exact .same (.ok key)
  | false =>
    exact (onOutlet_mirrors (alike.note _)).bind fun _ =>
      (storeSource_mirrors key .fresh).bind fun _ => .same (.ok key)

/-- Requesting a service mirrors itself. -/
theorem requestService_mirrors (alike : Alike related first second)
    (package name : Option String) :
    Mirrors (Agree (μ := μ) related) (requestService package name)
      (requestService package name) := by
  -- A target is built on both sides, or on neither.
  refine checkOpen_mirrors.bind fun _ => (Follows.same _).bind fun key => ?_
  refine Mirrors.read fun pass other agree => ?_
  rw [agree.services]
  cases pass.services.contains key with
  | true => exact .same (.ok key)
  | false =>
    exact (onOutlet_mirrors (alike.note _)).bind fun _ =>
      (storeService_mirrors key .fresh).bind fun _ => .same (.ok key)

/-- Passes that agree have the same source under each key. -/
theorem Agree.sourceAt {pass : Pass σ μ} {other : Pass υ μ} (agree : Agree related pass other)
    (key : TargetKey) : other.sourceAt key = pass.sourceAt key := by
  unfold Pass.sourceAt
  rw [agree.sources]

/-- Passes that agree have the same service under each key. -/
theorem Agree.serviceAt {pass : Pass σ μ} {other : Pass υ μ} (agree : Agree related pass other)
    (key : TargetKey) : other.serviceAt key = pass.serviceAt key := by
  unfold Pass.serviceAt
  rw [agree.services]

/-- Passes that agree have the same artifacts. -/
theorem Agree.artifacts {pass : Pass σ μ} {other : Pass υ μ} (agree : Agree related pass other) :
    other.artifacts = pass.artifacts := by
  unfold Pass.artifacts
  rw [agree.sources, agree.services]

/-- Committing a source mirrors itself. -/
theorem completeSource_mirrors (alike : Alike related first second) (key : TargetKey) :
    Mirrors (Agree (μ := μ) related) (Pass.completeSource first key)
      (Pass.completeSource second key) := by
  -- Both sides commit the same target.
  refine Mirrors.read fun pass other agree => ?_
  simp only [agree.sourceAt]
  exact (onOutlet_mirrors (alike.completeSource key _)).bind (storeSource_mirrors key)

/-- Settling a source mirrors itself. -/
theorem settleSource_mirrors (alike : Alike related first second) (key : TargetKey)
    (text : String) :
    Mirrors (Agree (μ := μ) related) (settleSource first key text)
      (settleSource second key text) := by
  have appends : Mirrors (Agree (μ := μ) related) (appendSource key text)
      (appendSource key text) := by
    refine Mirrors.read fun pass other agree => ?_
    rw [agree.sourceAt]
    exact (Follows.same _).bind (storeSource_mirrors key)
  -- Both sides look at the same source, and then report it or commit it.
  refine Mirrors.read fun pass other agree => ?_
  rw [agree.sourceAt]
  cases (pass.sourceAt key).committed with
  | true => exact onOutlet_mirrors (alike.report _ _)
  | false => exact appends.bind fun _ => completeSource_mirrors alike key

/-- Adding text to a service mirrors itself. -/
theorem appendService_mirrors (key : TargetKey) (text : String) :
    Mirrors (Agree (μ := μ) related) (appendService key text) (appendService key text) := by
  refine Mirrors.read fun pass other agree => ?_
  rw [agree.serviceAt]
  exact (Follows.same _).bind (storeService_mirrors key)

/-- Committing a service mirrors itself. -/
theorem completeService_mirrors (alike : Alike related first second) (key : TargetKey) :
    Mirrors (Agree (μ := μ) related) (Pass.completeService first key)
      (Pass.completeService second key) := by
  -- Both sides commit the same target.
  refine Mirrors.read fun pass other agree => ?_
  simp only [agree.serviceAt]
  exact (onOutlet_mirrors (alike.completeService key _)).bind (storeService_mirrors key)

/-- Committing services in order mirrors itself. -/
theorem completeServices_mirrors (alike : Alike related first second) (keys : List TargetKey) :
    Mirrors (Agree (μ := μ) related) (completeServices first keys)
      (completeServices second keys) := by
  induction keys with
  | nil => exact .same (.ok ())
  | cons key rest ih => exact (completeService_mirrors alike key).bind fun _ => ih

/-- Closing a pass mirrors itself. -/
theorem finalize_mirrors (alike : Alike related first second) :
    Mirrors (Agree (μ := μ) related) (finalize first) (finalize second) := by
  refine checkOpen_mirrors.bind fun _ => ?_
  refine (Mirrors.change fun _ _ agree => { agree with finalized := rfl }).bind fun _ => ?_
  refine Mirrors.read fun pass other agree => ?_
  rw [agree.services]
  refine (completeServices_mirrors alike pass.services.keys).bind fun _ => ?_
  -- The numbers of targets and the artifacts are those of the tables, which are the same.
  refine Mirrors.read fun pass other agree => ?_
  rw [agree.sources, agree.services, agree.artifacts]
  exact (onOutlet_mirrors (alike.note _)).bind fun _ => .same (.ok pass.artifacts)

end Pass

end Stencil
