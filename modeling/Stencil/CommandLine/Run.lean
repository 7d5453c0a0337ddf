import Stencil.CommandLine.Arguments
import Stencil.CommandLine.Context
import Stencil.CommandLine.Report
import Stencil.CommandLine.Terminal
import Stencil.CommandLine.Usage
import Stencil.CommandLine.Version
import Stencil.Template.Library

/-! The program: from a command line to files, printed lines and an ending. -/

namespace Stencil.CommandLine

/-- Ends the program for some failures with their wording; all others are passed on. -/
def giveUp (expected : Failure → Bool) (failure : Failure) : Attempt Terminal Ending :=
  if expected failure then return .reason s!"Error: {failure.message}" else .stop failure

/-- Lists the templates of a directory. -/
def listTemplates (directory : Path) : Attempt Terminal Ending := do
  match Catalog.templates (← Attempt.state).disk directory Catalog.templateSuffixes with
  | .error failure => giveUp (fun failure => failure.kind == .system .notFound) failure
  | .ok [] =>
    Terminal.printLines ["No templates found."]
    return .code 0
  | .ok names =>
    Terminal.printLines ("Templates:" :: names.map fun name => s!"  - {name}")
    return .code 0

/-- The version for templates: the one that is given, or else what commands tell. -/
def versionFor (ask : Version.Query → Version.CommandResult) (directory : Path) :
    Option String → Attempt Terminal String
  | some version => return version
  | none => do
    let (version, asked) ← .ofExcept
      ((Version.resolve (← Attempt.state).disk directory ask).mapError Failure.path)
    Attempt.change fun terminal => { terminal with asked := terminal.asked ++ asked }
    return version

/-- The lines of a log from a level on. -/
def logLines (level : LogLevel) (log : List LogRecord) : String :=
  String.join ((log.filter fun entry => level.rank ≤ entry.level.rank).map fun entry =>
    entry.line ++ "\n")

/-- Runs a generation on the disk; what it prints and logs is kept even if it fails. -/
def generate (options : GenerationOptions) (context : Context.Values) (level : LogLevel) :
    Attempt Terminal (Except Failure GenerationResult) := fun terminal =>
  let render := Template.render options.templates context.entries
  let (result, pass) := (Generation.run options render).run
    (Generation.begin terminal.disk [] Template.Memory.empty)
  (.ok result, { terminal with
    disk := pass.outlet.state.disk
    output := terminal.output ++ pass.console
    errors := terminal.errors ++ logLines level pass.outlet.log })

/-- Writes the report of a generation under the output directory; an empty name asks for none. -/
def writeReport (out : Path) (name version : String) (result : GenerationResult) :
    Attempt Terminal Unit :=
  if name == "" then pure ()
  else do
    let path := out.join name
    let content := (reportDocument version result).toText.toUTF8
    let (written, disk) := (← Attempt.state).disk.writeFile path content
    Attempt.change fun terminal => { terminal with disk }
    .ofExcept (written.mapError Failure.path)
    Terminal.printLines [s!"Wrote generation report: {path.toText}"]

/-- Says what a generation did. -/
def summarize (result : GenerationResult) : Attempt Terminal Ending := do
  Terminal.printLines [s!"Generated {result.written.length} file(s) from " ++
    s!"{result.templates.length} template(s)"]
  if result.failed then
    Terminal.complain "Generation reported errors.\n"
    return .code 1
  else return .code 0

/-- The options of a generation into an output directory. -/
def generationOptions (arguments : Arguments) (out : String) : GenerationOptions :=
  let resources := match arguments.resourcesOut with
    | none | some "" => out
    | some directory => directory
  ⟨.ofString arguments.templates,
    ⟨.ofString out, .ofString resources, arguments.incremental, .utf8⟩,
    ⟨arguments.suffix, Layout.normalizer⟩⟩

/-- The context of all templates: the version, overridden by the values given. -/
def contextOf (version : String) (extra : Context.Values) : Context.Values :=
  (Table.empty.put "version" (.text version)).putAll extra.entries

/-- Generates into an output directory for a version, with the values given. -/
def generateInto (arguments : Arguments) (out version : String) (extra : Context.Values) :
    Attempt Terminal Ending := do
  let options := generationOptions arguments out
  let level := if arguments.verbose then .debug else .warning
  match ← generate options (contextOf version extra) level with
  | .error failure =>
    if failure.kind.isGeneration then
      Terminal.complain s!"Generation failed: {failure.message}\n"
      return .code 1
    else .stop failure
  | .ok result =>
    writeReport (.ofString out) (arguments.report.getD "") version result
    summarize result

/-- Does what the arguments ask for. -/
def perform (ask : Version.Query → Version.CommandResult) (arguments : Arguments) :
    Attempt Terminal Ending :=
  let directory := Path.ofString arguments.templates
  if arguments.listTemplates then listTemplates directory
  else match arguments.out with
    | none | some "" => return .reason "Error: --out is required for generation."
    | some out => do
      let version ← versionFor ask directory arguments.version
      match Context.build (← Attempt.state).disk arguments.config arguments.options with
      | .error failure => giveUp (fun failure => failure.kind.isValue) failure
      | .ok extra => generateInto arguments out version extra

/-- Runs the program on the words of a command line; commands are answered by a table. -/
def run (ask : Version.Query → Version.CommandResult) (words : List String) :
    Attempt Terminal Ending :=
  match requestOf words with
  | .error fault => do
    Terminal.complain fault.report
    return .code 2
  | .ok .help => do
    Terminal.print helpText
    return .code 0
  | .ok (.run arguments) => perform ask arguments

end Stencil.CommandLine
