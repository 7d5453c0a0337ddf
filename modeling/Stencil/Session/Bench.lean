import Stencil.Pass.Operations
import Stencil.Session.Step

/-! The bench of a session: the disk, all passes begun so far, and the targets known by name. -/

namespace Stencil.Session

/-- What backs the sink of a pass, with its state. -/
inductive Backing where
  | files (settings : FileSettings) (created written : List Path)
  | scripted (script : SinkScript) (state : ScriptedState)

/-- The backing of a new pass. -/
def BackingChoice.begin : BackingChoice → Backing
  | .files settings => .files settings [] []
  | .scripted script => .scripted script ⟨[], ""⟩

/-- The paths that a sink opened for writing. -/
def Backing.written : Backing → List Path
  | .files _ _ written => written
  | .scripted _ _ => []

/-- The calls that a scripted sink received. -/
def Backing.calls : Backing → List SinkCall
  | .files _ _ _ => []
  | .scripted _ state => state.calls

/-- All that belongs to one pass alone. -/
structure PassRecord where
  backing : Backing
  style : SourceStyle
  diagnostics : List Diagnostic
  sources : Table TargetKey SourceTarget
  services : Table TargetKey ServiceTarget
  finalized : Bool

/-- A pass that has just begun. -/
def PassRecord.begin (settings : PassSettings) : PassRecord :=
  ⟨settings.backing.begin, settings.style, [], .empty, .empty, false⟩

/-- A source target outside the table of its pass. -/
structure LooseSource where
  pass : Nat
  key : TargetKey
  style : SourceStyle
  target : SourceTarget

/-- A service target outside the table of its pass. -/
structure LooseService where
  pass : Nat
  key : TargetKey
  target : ServiceTarget

/-- What a name stands for: a target in the table of a pass, or a loose one by its number. -/
inductive Handle where
  | source (pass : Nat) (key : TargetKey)
  | service (pass : Nat) (key : TargetKey)
  | looseSource (number : Nat)
  | looseService (number : Nat)
deriving DecidableEq, Repr

/-- The state behind the pass in focus: the disk, the backing and the style of that pass, its
number, the number of the latest pass, the records of the others, loose targets, and names. -/
structure Bench where
  disk : Disk
  backing : Backing
  style : SourceStyle
  focus : Nat
  latest : Nat
  records : List PassRecord
  looseSources : List LooseSource
  looseServices : List LooseService
  names : Table String Handle

/-- An operation of a session. -/
abbrev Act (α : Type) := Attempt (Pass Bench Unit) α

/-- A stream of either backing. -/
inductive BenchStream where
  | file (stream : OpenFile)
  | scripted (stream : ScriptedStream)

namespace Bench

/-- Runs one of two attempts on the backing in focus. -/
def onBacking {α : Type} (files : FileSettings → Attempt FileState α)
    (scripted : SinkScript → Attempt ScriptedState α) : Attempt Bench α := fun bench =>
  match bench.backing with
  | .files settings created written =>
    match files settings ⟨bench.disk, created, written⟩ with
    | (result, after) =>
      (result, { bench with
        disk := after.disk, backing := .files settings after.created after.written })
  | .scripted script state =>
    match scripted script state with
    | (result, after) => (result, { bench with backing := .scripted script after })

/-- The sink of the pass in focus. -/
def sink : Sink Bench where
  Stream := BenchStream
  openWrite place package name :=
    onBacking (fun settings => do return .file (← settings.openOnce place package name))
      (fun script => do return .scripted (← script.openOnce place package name))
  write
    | .file stream, text => onBacking (fun settings => settings.sink.write stream text)
      fun _ => pure ()
    | .scripted stream, text => onBacking (fun _ => pure ()) fun script =>
      script.sink.write stream text
  close
    | .file stream => onBacking (fun settings => settings.sink.close stream) fun _ => pure ()
    | .scripted stream => onBacking (fun _ => pure ()) fun script => script.sink.close stream
  openRead place package name :=
    onBacking (fun settings => do return .file (← settings.openExisting place package name))
      (fun script => do return .scripted (← script.openExisting place package name))
  read
    | .file stream => onBacking (fun settings => settings.sink.read stream) fun _ => pure ""
    | .scripted stream => onBacking (fun _ => pure "") fun script => script.sink.read stream
  opened
    | .file stream => some (.debug "codegen.sink" s!"Opened {stream.path.toText} for writing")
    | .scripted _ => none

end Bench

/-- The record of the pass in focus. -/
def focusRecord (pass : Pass Bench Unit) : PassRecord :=
  ⟨pass.outlet.state.backing, pass.outlet.state.style, pass.outlet.diagnostics, pass.sources,
    pass.services, pass.finalized⟩

/-- The record of a pass by its number. -/
def recordOf (pass : Pass Bench Unit) (number : Nat) : PassRecord :=
  if number == pass.outlet.state.focus then focusRecord pass
  else (pass.outlet.state.records[number]?).getD (focusRecord pass)

/-- Puts another pass into focus; the disk, the log and the console are common to all. -/
def switchTo (number : Nat) (pass : Pass Bench Unit) : Pass Bench Unit :=
  let bench := pass.outlet.state
  let next := recordOf pass number
  let records := bench.records.set bench.focus (focusRecord pass)
  { pass with
    outlet := { pass.outlet with
      state := { bench with
        backing := next.backing, style := next.style, focus := number, records }
      diagnostics := next.diagnostics }
    sources := next.sources
    services := next.services
    finalized := next.finalized }

/-- The setup of the pass in focus. -/
def setupOf (pass : Pass Bench Unit) : Setup Bench :=
  ⟨Bench.sink, pass.outlet.state.style, fun _ _ => none⟩

/-- Runs an operation on a pass by its number and returns to the pass in focus. -/
def onPass {α : Type} (number : Nat) (act : Setup Bench → Act α) : Act α := do
  let before := (← Attempt.state).outlet.state.focus
  Attempt.change (switchTo number)
  let result ← (act (setupOf (← Attempt.state))).outcome
  Attempt.change (switchTo before)
  .ofExcept result

/-- Runs an operation on the latest pass. -/
def onLatest {α : Type} (act : Setup Bench → Act α) : Act α := do
  onPass (← Attempt.state).outlet.state.latest act

/-- Changes the bench. -/
def changeBench (step : Bench → Bench) : Act Unit :=
  .change fun pass => { pass with outlet := { pass.outlet with state := step pass.outlet.state } }

/-- The bench at this point. -/
def bench : Act Bench := do return (← Attempt.state).outlet.state

/-- Takes over a result of the disk, which may have changed. -/
def onDisk {α : Type} (change : Disk → Except PathFault α × Disk) : Act α := do
  let (result, disk) := change (← bench).disk
  changeBench fun bench => { bench with disk }
  .ofExcept (result.mapError Failure.path)

/-- The state of a session at its first pass. -/
def begin (disk : Disk) (settings : PassSettings) : Pass Bench Unit :=
  let first := PassRecord.begin settings
  .start ⟨disk, first.backing, first.style, 0, 0, [first], [], [], .empty⟩ [] ()

end Stencil.Session
