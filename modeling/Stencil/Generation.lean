import Stencil.Catalog
import Stencil.Script
import Stencil.Sink.Files

/-! Generation: one pass over every template of a directory, up to the final commits. -/

namespace Stencil

/-- What a generation works with: the directory of its templates, where its files go, and the
style of its sources. -/
structure GenerationOptions where
  templates : Path
  files : FileSettings
  style : SourceStyle

/-- What a generation yields. -/
structure GenerationResult where
  templates : List String
  artifacts : List Artifact
  diagnostics : List Diagnostic
  written : List Path

/-- Tests whether a generation reported errors. -/
def GenerationResult.failed (result : GenerationResult) : Bool := hasErrors result.diagnostics

namespace Generation

variable {σ μ : Type}

/-- The fixed part of the pass of a generation: templates are looked up on the disk as it is. -/
def setup (options : GenerationOptions) : Setup FileState :=
  ⟨options.files.sink, options.style, fun path state => (state.disk.readFile path).toOption⟩

/-- What a failure inside a template counts as: failures of generation stay as they are, faults of
the template are named with their text, and all others only stop it. -/
def blame (name : String) (failure : Failure) : Failure :=
  match failure.kind with
  | .template _ => .templateFault name failure.message failure.kind
  | kind => if kind.isGeneration then failure else .templateStopped name kind

/-- Notes that a template put out text of its own. -/
def noteLeftover (name text : String) : Attempt (Pass σ μ) Unit :=
  if isBlankText text then pure ()
  else Pass.note (.debug "codegen.engine"
    s!"Template {name} produced text outside of any output target")

/-- Renders one template. -/
def renderOne (setup : Setup σ) (render : String → Script μ) (name : String) :
    Attempt (Pass σ μ) Unit := do
  Pass.note (.debug "codegen.engine" s!"Rendering template {name}")
  match ← ((render name).run setup).outcome with
  | .ok text => noteLeftover name text
  | .error failure => Attempt.stop (blame name failure)

/-- Renders templates in order, up to the first failure. -/
def renderAll (setup : Setup σ) (render : String → Script μ) :
    List String → Attempt (Pass σ μ) Unit
  | [] => pure ()
  | name :: rest => do
    renderOne setup render name
    renderAll setup render rest

/-- What a listing of templates counts as: there has to be one template, and what is not found is
told as a failure of generation. -/
def listed (directory : Path) : Except Failure (List String) → Except Failure (List String)
  | .ok [] => .error (.noTemplates directory)
  | .ok names => .ok names
  | .error failure =>
    if failure.kind = .system .notFound then .error (.noTemplateDirectory failure.message)
    else .error failure

/-- The templates that a generation renders. -/
def templatesOf (disk : Disk) (directory : Path) : Except Failure (List String) :=
  listed directory (Catalog.templates disk directory Catalog.templateSuffixes)

/-- Generates on any sink: the templates of a listing are rendered, then the services are
committed. -/
def generate (setup : Setup σ) (render : String → Script μ)
    (listing : Except Failure (List String)) : Attempt (Pass σ μ) (List String × List Artifact) := do
  let names ← .ofExcept listing
  renderAll setup render names
  let artifacts ← Pass.finalize setup
  return (names, artifacts)

/-- Runs a generation over the templates of a directory. -/
def run (options : GenerationOptions) (render : String → Script μ) :
    Attempt (Pass FileState μ) GenerationResult := do
  let listing := templatesOf (← Attempt.state).outlet.state.disk options.templates
  let (names, artifacts) ← generate (setup options) render listing
  let pass ← Attempt.state
  return ⟨names, artifacts, pass.outlet.diagnostics, pass.outlet.state.written⟩

/-- The pass of a generation at its start. -/
def begin (disk : Disk) (diagnostics : List Diagnostic) (memory : μ) : Pass FileState μ :=
  .start (.start disk) diagnostics memory

end Generation

end Stencil
