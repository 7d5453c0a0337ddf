import Stencil.Target.Service
import Stencil.Target.Source

/-! A generation pass: the table of its targets, from the first request to the final commits. -/

namespace Stencil

/-- What stays fixed during a pass: the sink, the style of its sources, and how a file is looked
at without a sink. -/
structure Setup (σ : Type) where
  sink : Sink σ
  style : SourceStyle
  look : Path → σ → Option ByteArray

/-- The state of a pass: its outlet, what it printed, its targets in the order in which they were
first requested, whether it is finalized, and what its templates remember. -/
structure Pass (σ μ : Type) where
  outlet : Outlet σ
  console : String
  sources : Table TargetKey SourceTarget
  services : Table TargetKey ServiceTarget
  finalized : Bool
  memory : μ

namespace Pass

variable {σ μ : Type}

/-- A pass at its start, with the diagnostics that its reporter holds already. -/
def start (state : σ) (diagnostics : List Diagnostic) (memory : μ) : Pass σ μ :=
  ⟨⟨state, diagnostics, []⟩, "", .empty, .empty, false, memory⟩

/-- Runs an attempt on the outlet of a pass. -/
def onOutlet {α : Type} (attempt : Attempt (Outlet σ) α) : Attempt (Pass σ μ) α :=
  attempt.onPart Pass.outlet fun outlet pass => { pass with outlet }

/-- Adds a record to the log. -/
def note (entry : LogRecord) : Attempt (Pass σ μ) Unit := onOutlet (Outlet.note entry)

/-- Adds a diagnostic. -/
def report (severity : Severity) (message : String) : Attempt (Pass σ μ) Unit :=
  onOutlet (Outlet.report severity message)

/-- Refuses a pass that is finalized. -/
def checkOpen : Attempt (Pass σ μ) Unit := fun pass =>
  if pass.finalized then (.error (.closed .pass), pass) else (.ok (), pass)

/-- The record of a target that is built. -/
def createdRecord (key : TargetKey) : LogRecord :=
  .debug "codegen.cache" s!"Created output target {key.toText}"

/-- Stores a source target. -/
def storeSource (key : TargetKey) (target : SourceTarget) : Attempt (Pass σ μ) Unit :=
  .change fun pass => { pass with sources := pass.sources.put key target }

/-- Stores a service target. -/
def storeService (key : TargetKey) (target : ServiceTarget) : Attempt (Pass σ μ) Unit :=
  .change fun pass => { pass with services := pass.services.put key target }

/-- The source target of a key; one never requested is fresh. -/
def sourceAt (pass : Pass σ μ) (key : TargetKey) : SourceTarget :=
  (pass.sources.find? key).getD .fresh

/-- The service target of a key; one never requested is fresh. -/
def serviceAt (pass : Pass σ μ) (key : TargetKey) : ServiceTarget :=
  (pass.services.find? key).getD .fresh

/-- Requests a source target: a pass that is open builds it at the first request of its key. -/
def requestSource (package name : Option String) : Attempt (Pass σ μ) TargetKey := do
  checkOpen
  let key ← .ofExcept ((TargetKey.ofParts package name).mapError Failure.keyPart)
  if !(← Attempt.state).sources.contains key then
    note (createdRecord key)
    storeSource key .fresh
  return key

/-- Requests a service target: a pass that is open builds it at the first request of its key. -/
def requestService (package name : Option String) : Attempt (Pass σ μ) TargetKey := do
  checkOpen
  let key ← .ofExcept ((TargetKey.ofParts package name).mapError Failure.keyPart)
  if !(← Attempt.state).services.contains key then
    note (createdRecord key)
    storeService key .fresh
  return key

/-- Adds text to a source target. -/
def appendSource (key : TargetKey) (text : String) : Attempt (Pass σ μ) Unit := do
  storeSource key (← .ofExcept (((← Attempt.state).sourceAt key).append key text))

/-- Adds the lines of a text to a service target. -/
def appendService (key : TargetKey) (text : String) : Attempt (Pass σ μ) Unit := do
  storeService key (← .ofExcept (((← Attempt.state).serviceAt key).append key text))

/-- Commits a source target. -/
def completeSource (setup : Setup σ) (key : TargetKey) : Attempt (Pass σ μ) Unit := do
  let target := (← Attempt.state).sourceAt key
  storeSource key (← onOutlet (target.complete setup.sink setup.style key))

/-- Commits a service target. -/
def completeService (setup : Setup σ) (key : TargetKey) : Attempt (Pass σ μ) Unit := do
  let target := (← Attempt.state).serviceAt key
  storeService key (← onOutlet (target.complete setup.sink key))

/-- Commits service targets in order, up to the first failure. -/
def completeServices (setup : Setup σ) : List TargetKey → Attempt (Pass σ μ) Unit
  | [] => pure ()
  | key :: rest => do
    completeService setup key
    completeServices setup rest

/-- The artifacts committed so far: sources, then services, in the order of their requests. -/
def artifacts (pass : Pass σ μ) : List Artifact :=
  pass.sources.values.filterMap SourceTarget.artifact ++
    pass.services.values.filterMap ServiceTarget.artifact

/-- Closes a pass and commits its services in the order of their first requests; the pass is
closed even if a commit fails. -/
def finalize (setup : Setup σ) : Attempt (Pass σ μ) (List Artifact) := do
  checkOpen
  Attempt.change fun pass => { pass with finalized := true }
  completeServices setup (← Attempt.state).services.keys
  let pass ← Attempt.state
  note (.debug "codegen.registry" (s!"Finalized pass: {pass.sources.size} source file(s), " ++
    s!"{pass.services.size} service file(s)"))
  return pass.artifacts

end Pass

end Stencil
