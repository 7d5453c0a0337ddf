import Stencil.Disk
import Stencil.Json.Fault
import Stencil.Target.Key
import Stencil.Text.Encoding

/-! Failures: every cause for which an operation stops, its kind, its wording and its origin. -/

namespace Stencil

/-- The kinds of system failure that callers tell apart. -/
inductive SystemKind where
  | general
  | notFound
  | alreadyThere
  | notDirectory
  | isDirectory
  | other (name : String)
deriving DecidableEq, Repr

/-- The kinds of failure inside a template. -/
inductive TemplateKind where
  | undefinedValue
  | badSyntax
  | badReference
  | notFound
  | runtime
deriving DecidableEq, Repr

/-- The kinds of failure: those of generation first, then those of everything it calls. -/
inductive FailureKind where
  | generation
  | badKey
  | destinationExists
  | outputFailed
  | construction
  | lifecycle
  | rendering
  | system (kind : SystemKind)
  | template (kind : TemplateKind)
  | encoding
  | decoding
  | json
  | value
  | type
  | lookup
  | division
  | overflow
  | recursion
  | other (name : String)
deriving DecidableEq, Repr

namespace FailureKind

/-- Tests for the kinds that generation itself raises. -/
def isGeneration : FailureKind → Bool
  | generation | badKey | destinationExists | outputFailed | construction | lifecycle
  | rendering => true
  | _ => false

/-- Tests for failures of the system. -/
def isSystem : FailureKind → Bool
  | system _ => true
  | _ => false

/-- Tests for failures that say a value is wrong. -/
def isValue : FailureKind → Bool
  | value | json | encoding | decoding | badKey => true
  | _ => false

end FailureKind

/-- Why a destination counts as created. -/
inductive Occupied where
  | thisPass (path : Path)
  | earlierBuild (path : Path)
deriving DecidableEq, Repr

/-- The targets and tables that refuse what comes too late. -/
inductive Closed where
  | source (key : TargetKey)
  | service (key : TargetKey)
  | pass
deriving DecidableEq, Repr

/-- Arguments that no operation accepts. -/
inductive BadValue where
  | bodyMissing
  | contentMissing
  | unknownLocation (name : String)
  | unknownSeverity (name : String)
  | badOption (item : String)
  | configNotObject (path : String)
deriving DecidableEq, Repr

/-- Every cause for which an operation stops. -/
inductive Failure where
  | keyPart (part : KeyPart)
  | occupied (reason : Occupied)
  | sourceNotWritten (key : TargetKey) (origin : FailureKind)
  | serviceNotWritten (key : TargetKey) (origin : FailureKind)
  | notConstructed (key : String) (origin : FailureKind)
  | closed (what : Closed)
  | templateFault (template text : String) (origin : FailureKind)
  | templateStopped (template : String) (origin : FailureKind)
  | noTemplates (directory : Path)
  | noTemplateDirectory (text : String)
  | directoryMissing (directory : Path)
  | badValue (reason : BadValue)
  | path (fault : PathFault)
  | encode (fault : EncodeFault)
  | decode (fault : DecodeFault)
  | json (fault : Json.Fault)
  | template (kind : TemplateKind) (text : String)
  | wrongType
  | divisionByZero
  | tooLarge
  | tooDeep
  | raised (kind : FailureKind) (text : String)
deriving DecidableEq, Repr

/-- The kind of a refused path. -/
def Refusal.kind : Refusal → FailureKind
  | .notFound => .system .notFound
  | .alreadyThere => .system .alreadyThere
  | .notDirectory => .system .notDirectory
  | .isDirectory => .system .isDirectory
  | .nameTooLong => .system .general
  | .nullByte => .value

namespace Failure

/-- The kind of a failure. -/
def kind : Failure → FailureKind
  | keyPart _ => .badKey
  | occupied _ => .destinationExists
  | sourceNotWritten _ _ => .outputFailed
  | serviceNotWritten _ _ => .outputFailed
  | notConstructed _ _ => .construction
  | closed _ => .lifecycle
  | templateFault _ _ _ => .rendering
  | templateStopped _ _ => .generation
  | noTemplates _ => .generation
  | noTemplateDirectory _ => .generation
  | directoryMissing _ => .system .notFound
  | badValue _ => .value
  | path fault => fault.refusal.kind
  | encode _ => .encoding
  | decode _ => .decoding
  | json (.syntaxAt _ _) => .json
  | json (.integerTooLong _) => .value
  | template kind _ => .template kind
  | wrongType => .type
  | divisionByZero => .division
  | tooLarge => .overflow
  | tooDeep => .recursion
  | raised kind _ => kind

/-- The kind of the failure that led to this one, where there is one. -/
def origin? : Failure → Option FailureKind
  | sourceNotWritten _ origin => some origin
  | serviceNotWritten _ origin => some origin
  | notConstructed _ origin => some origin
  | templateFault _ _ origin => some origin
  | templateStopped _ origin => some origin
  | noTemplateDirectory _ => some (.system .notFound)
  | _ => none

end Failure

/-- The wording of a missing part of a key. -/
def KeyPart.message : KeyPart → String
  | package => "Target namespace must not be None."
  | name => "Target relative name must not be None."

/-- The wording of a destination that counts as created. -/
def Occupied.message : Occupied → String
  | thisPass path => s!"Attempt to reopen a file for path {path.toText}"
  | earlierBuild path => s!"File already exists from a previous build: {path.toText}"

/-- The wording of what came too late. -/
def Closed.message : Closed → String
  | source key => s!"Source file {key.toText} is already committed."
  | service key => s!"Service file {key.toText} is already finalized."
  | pass => "Target registry is already finalized."

/-- The wording of an argument that no operation accepts. -/
def BadValue.message : BadValue → String
  | bodyMissing => "A body or caller is required."
  | contentMissing => "Content must not be None."
  | unknownLocation name =>
    s!"Unknown output location '{name}'. Supported: class-output, source-output"
  | unknownSeverity name => s!"Unknown severity '{name}'. Supported: error, warning, info"
  | badOption item => s!"Invalid --option value '{item}'. Expected KEY=VALUE."
  | configNotObject path => s!"Config file {path} must contain a JSON object."

namespace Failure

/-- The wording of a failure. -/
def message : Failure → String
  | keyPart part => part.message
  | occupied reason => reason.message
  | sourceNotWritten key _ => s!"Failed to write generated source file {key.toText}"
  | serviceNotWritten key _ => s!"Failed to write service file {key.toText}"
  | notConstructed key _ => s!"Failed to construct output target for '{key}'"
  | closed what => what.message
  | templateFault name text _ => s!"Template '{name}' failed to render: {text}"
  | templateStopped name _ => s!"Template '{name}' failed while generating output"
  | noTemplates directory => s!"No templates found in {directory.toText}"
  | noTemplateDirectory text => text
  | directoryMissing directory => s!"Template directory not found: {directory.toText}"
  | badValue reason => reason.message
  | path fault => fault.message
  | encode fault => fault.message
  | decode fault => fault.message
  | json fault => fault.message
  | template _ text => text
  | wrongType => "an operand has the wrong type"
  | divisionByZero => "division by zero"
  | tooLarge => "a number is too large"
  | tooDeep => "maximum recursion depth exceeded"
  | raised kind text => if kind = .lookup then quote text else text

end Failure

end Stencil
