import Stencil.Indent
import Stencil.Session.Bench

/-! Running a session: what each step answers, and what it adds to the records of the pass. -/

namespace Stencil.Session

/-- The answer of a step. -/
inductive Answer where
  | nothing
  | text (value : String)
  | truth (value : Bool)
  | number (value : Nat)
  | artifact (artifact : Artifact)
  | artifacts (list : List Artifact)
  | sameAs (ids : List String)
  | source (target : SourceTarget)
  | service (target : ServiceTarget)
  | keys (sources services : List TargetKey)
  | file (content : ByteArray)
  | directory

/-- Binds a name to a target; the answer lists the names that stood for it before. -/
def bind (id : String) (handle : Handle) : Act Answer := do
  let names := (← bench).names
  let same := names.entries.filter fun entry => entry.2 == handle
  changeBench fun bench => { bench with names := bench.names.put id handle }
  return .sameAs ((same.map Prod.fst).mergeSort fun a b => decide (a ≤ b))

/-- The target that a name stands for. -/
def lookUp (id : String) : Act Handle := do
  match (← bench).names.find? id with
  | some handle => return handle
  | none => Attempt.stop (.raised .lookup id)

/-- The failure of a number of a loose target that does not exist. -/
def noTarget : Failure := .raised .lookup "target"

/-- A loose source target by its number. -/
def looseSourceAt (number : Nat) : Act LooseSource := do
  match (← bench).looseSources[number]? with
  | some loose => return loose
  | none => Attempt.stop noTarget

/-- A loose service target by its number. -/
def looseServiceAt (number : Nat) : Act LooseService := do
  match (← bench).looseServices[number]? with
  | some loose => return loose
  | none => Attempt.stop noTarget

/-- Stores a loose source target under its number. -/
def storeLooseSource (number : Nat) (loose : LooseSource) (target : SourceTarget) : Act Unit :=
  changeBench fun bench =>
    { bench with looseSources := bench.looseSources.set number { loose with target } }

/-- Stores a loose service target under its number. -/
def storeLooseService (number : Nat) (loose : LooseService) (target : ServiceTarget) : Act Unit :=
  changeBench fun bench =>
    { bench with looseServices := bench.looseServices.set number { loose with target } }

/-- The key of given parts. -/
def keyOf (package name : Option String) : Act TargetKey :=
  .ofExcept ((TargetKey.ofParts package name).mapError Failure.keyPart)

/-- Adds text to the target of a name. -/
def appendTo (text : String) : Handle → Act Unit
  | .source pass key => onPass pass fun _ => Pass.appendSource key text
  | .service pass key => onPass pass fun _ => Pass.appendService key text
  | .looseSource number => do
    let loose ← looseSourceAt number
    storeLooseSource number loose (← .ofExcept (loose.target.append loose.key text))
  | .looseService number => do
    let loose ← looseServiceAt number
    storeLooseService number loose (← .ofExcept (loose.target.append loose.key text))

/-- The answer for a committed target. -/
def artifactAnswer : Option Artifact → Answer
  | some artifact => .artifact artifact
  | none => .nothing

/-- Commits the target of a name. -/
def commit : Handle → Act Answer
  | .source pass key => onPass pass fun setup => do
    Pass.completeSource setup key
    return artifactAnswer ((← Attempt.state).sourceAt key).artifact
  | .service pass key => onPass pass fun setup => do
    Pass.completeService setup key
    return artifactAnswer ((← Attempt.state).serviceAt key).artifact
  | .looseSource number => do
    let loose ← looseSourceAt number
    let target ← onPass loose.pass fun setup =>
      Pass.onOutlet (loose.target.complete setup.sink loose.style loose.key)
    storeLooseSource number loose target
    return artifactAnswer target.artifact
  | .looseService number => do
    let loose ← looseServiceAt number
    let target ← onPass loose.pass fun setup =>
      Pass.onOutlet (loose.target.complete setup.sink loose.key)
    storeLooseService number loose target
    return artifactAnswer target.artifact

/-- The target of a name as it stands. -/
def inspect : Handle → Act Answer
  | .source pass key => onPass pass fun _ => do
    return .source ((← Attempt.state).sourceAt key)
  | .service pass key => onPass pass fun _ => do
    return .service ((← Attempt.state).serviceAt key)
  | .looseSource number => do return .source (← looseSourceAt number).target
  | .looseService number => do return .service (← looseServiceAt number).target

/-- The path of a destination of the latest pass, if its sink has paths. -/
def resolveIn (place package name : String) : Act Answer := onLatest fun _ => do
  match (← bench).backing with
  | .files settings _ _ =>
    return .text (settings.resolve (← .ofExcept (Place.ofWord place)) package name).toText
  | .scripted _ _ => Attempt.stop (.raised (.other "AttributeError") "resolve")

/-- Sets a path to a file or a directory. -/
def putAt (path : Path) : NewContent → Act Unit
  | .file content => onDisk fun disk => disk.writeFile path content
  | .directory => onDisk fun disk => disk.makeDirectories path

/-- What stands at a path. -/
def viewAt (path : Path) : Act Answer := do
  let disk := (← bench).disk
  let location ← .ofExcept ((Disk.about path (disk.find path)).mapError Failure.path)
  match disk.fileAt? location with
  | some content => return .file content
  | none => return .directory

/-- Runs a task. -/
def runTask : Task → Act Answer
  | .error message => onLatest fun _ => do return .text (← Pass.error message.toText)
  | .system message => onLatest fun _ => do return .text (← Pass.system message.toText)
  | .finalize => onLatest fun setup => do return .artifacts (← Pass.finalize setup)
  | .artifacts => onLatest fun _ => do return .artifacts (← Attempt.state).artifacts
  | .finalized => onLatest fun _ => do return .truth (← Attempt.state).finalized
  | .requestSource id package name => do
    let key ← onLatest fun _ => Pass.requestSource package name
    bind id (.source (← bench).latest key)
  | .requestService id package name => do
    let key ← onLatest fun _ => Pass.requestService package name
    bind id (.service (← bench).latest key)
  | .newSource id package name style => do
    let key ← keyOf package name
    let number := (← bench).looseSources.length
    changeBench fun bench =>
      { bench with
        looseSources := bench.looseSources ++ [⟨bench.latest, key, style, .fresh⟩] }
    bind id (.looseSource number)
  | .newService id package name => do
    let key ← keyOf package name
    let number := (← bench).looseServices.length
    changeBench fun bench =>
      { bench with looseServices := bench.looseServices ++ [⟨bench.latest, key, .fresh⟩] }
    bind id (.looseService number)
  | .append id text => do
    appendTo text (← lookUp id)
    return .nothing
  | .complete id => do commit (← lookUp id)
  | .inspect id => do inspect (← lookUp id)
  | .keys => onLatest fun _ => do
    let pass ← Attempt.state
    return .keys pass.sources.keys pass.services.keys
  | .has kind package name => onLatest fun _ => do
    let key ← keyOf package name
    let pass ← Attempt.state
    match kind with
    | .source => return .truth (pass.sources.contains key)
    | .service => return .truth (pass.services.contains key)
  | .newPass settings => do
    changeBench fun bench =>
      { bench with
        latest := bench.records.length
        records := bench.records ++ [.begin settings] }
    return .nothing
  | .resolve place package name => resolveIn place package name
  | .write place package name text => onLatest fun setup => do
    let place ← .ofExcept (Place.ofWord place)
    Pass.onOutlet (setup.sink.writeTo place package name [text])
    return .number text.length
  | .read place package name => onLatest fun setup => do
    let place ← .ofExcept (Place.ofWord place)
    return .text (← Pass.onOutlet (setup.sink.readFrom place package name))
  | .report severity message => onLatest fun _ => do
    Pass.report (← .ofExcept (Severity.ofWord severity)) message
    return .nothing
  | .count severity => onLatest fun _ => do
    let diagnostics := (← Attempt.state).outlet.diagnostics
    match Severity.ofWord? severity with
    | some severity => return .number (countSeverity severity diagnostics)
    | none => return .number 0
  | .hasErrors => onLatest fun _ => do
    return .truth (hasErrors (← Attempt.state).outlet.diagnostics)
  | .put path content => do
    putAt (.ofString path) content
    return .nothing
  | .delete path => do
    changeBench fun bench => { bench with disk := bench.disk.removePath (.ofString path) }
    return .nothing
  | .view path => viewAt (.ofString path)

/-- Call number n of a renderer gives its n-th rendering; the last one repeats. -/
def pick (renderings : List (Act String)) : Renderer Act := fun call =>
  match renderings[min call (renderings.length - 1)]? with
  | some rendering => rendering
  | none => Attempt.stop (.raised (.other "IndexError") "list index out of range")

/-- The renderer of a body, or of the caller where there is no body. -/
def choose (lack : BadValue) : Option (Renderer Act) → Option (Renderer Act) → Renderer Act
  | some render, _ => render
  | none, some render => render
  | none, none => fun _ => Attempt.stop (.badValue lack)

mutual

/-- Runs a step on the latest pass. -/
def runStep : Step → Act Answer
  | .source package name body caller =>
    let render := choose .bodyMissing (renderer? body) (renderer? caller)
    onLatest fun setup => do
      return .text (← Pass.source setup package.toText name.toText (render 0))
  | .service interface body caller =>
    let render := choose .bodyMissing (renderer? body) (renderer? caller)
    onLatest fun _ => do return .text (← Pass.service interface.toText (render 0))
  | .trim body caller => do
    let render := choose .contentMissing (renderer? body) (renderer? caller)
    return .text (← Shaping.trim render)
  | .collapsible body caller => do
    let render := choose .contentMissing (renderer? body) (renderer? caller)
    return .text (← Shaping.collapsible render)
  | .linesShortable body caller indent => do
    let render := choose .contentMissing (renderer? body) (renderer? caller)
    return .text (← Shaping.linesShortable render (.ofExcept (Indent.width indent)))
  | .task task => runTask task

/-- The renderer of a content, if there is one. -/
def renderer? : Content → Option (Renderer Act)
  | .missing => none
  | .value datum => some (.fixed datum.toText)
  | .rendered renderings => some (pick (renderAll renderings))

/-- The renderings of a renderer as operations. -/
def renderAll : List Rendering → List (Act String)
  | [] => []
  | rendering :: rest => renderOne rendering :: renderAll rest

/-- One rendering: its steps run first, then it fails or answers. -/
def renderOne : Rendering → Act String
  | .plain datum => pure datum.toText
  | .stepped steps failure text => do
    runAll steps
    match failure with
    | some failure => Attempt.stop failure
    | none => return text.toText

/-- Runs steps up to the first failure and drops their answers. -/
def runAll : List Step → Act Unit
  | [] => pure ()
  | step :: rest => do
    let _ ← runStep step
    runAll rest

end

/-- What a step answered and what it added to the records of the latest pass. -/
structure Report where
  result : Except Failure Answer
  diagnostics : List Diagnostic
  written : List Path
  calls : List SinkCall
  console : String
  log : List LogRecord

/-- Compares two states of a session; a pass begun in between starts from nothing. -/
def reportOf (result : Except Failure Answer) (before after : Pass Bench Unit) : Report :=
  let number := after.outlet.state.latest
  let now := recordOf after number
  let same := number == before.outlet.state.latest
  let old := recordOf before number
  let fresh {α : Type} (list : PassRecord → List α) : List α :=
    if same then (list now).drop (list old).length else list now
  ⟨result, fresh PassRecord.diagnostics, fresh fun pass => pass.backing.written,
    fresh fun pass => pass.backing.calls,
    String.ofList (after.console.toList.drop before.console.length),
    after.outlet.log.drop before.outlet.log.length⟩

/-- Runs the steps of a session one by one, each on what the earlier ones left. -/
def runSteps : List Step → Pass Bench Unit → List Report × Pass Bench Unit
  | [], pass => ([], pass)
  | step :: rest, pass =>
    match runStep step pass with
    | (result, after) =>
      let (reports, last) := runSteps rest after
      (reportOf result pass after :: reports, last)

end Stencil.Session
