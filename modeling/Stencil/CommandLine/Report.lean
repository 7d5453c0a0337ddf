import Stencil.Generation
import Stencil.Json.Writer

/-! The report of a generation as a JSON document. -/

namespace Stencil.CommandLine

/-- What the report says about an artifact. -/
def artifactEntry (artifact : Artifact) : Json.Document :=
  .object [("key", .text artifact.key.toText), ("type", .text artifact.kind.word),
    ("regenerated", .bool artifact.regenerated), ("collided", .bool artifact.collided)]

/-- What the report says about a diagnostic. -/
def diagnosticEntry (diagnostic : Diagnostic) : Json.Document :=
  .object [("severity", .text diagnostic.severity.word), ("message", .text diagnostic.message)]

/-- The report of a generation for a version. -/
def reportDocument (version : String) (result : GenerationResult) : Json.Document :=
  .object [("version", .text version), ("templates", .list (result.templates.map .text)),
    ("artifacts", .list (result.artifacts.map artifactEntry)),
    ("written", .list (result.written.map fun path => .text path.toText)),
    ("diagnostics", .list (result.diagnostics.map diagnosticEntry))]

end Stencil.CommandLine
