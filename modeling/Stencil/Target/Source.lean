import Stencil.Layout
import Stencil.Sink
import Stencil.Target.Artifact

/-! Source targets: text that is formatted and committed once, when its body has rendered. -/

namespace Stencil

/-- How the sources of a pass are named and formatted. -/
structure SourceStyle where
  suffix : String
  formatter : Formatter

/-- A source target: the text added so far, and what it was committed as. -/
structure SourceTarget where
  content : String
  artifact : Option Artifact

namespace SourceTarget

/-- A source target without text. -/
def fresh : SourceTarget := ⟨"", none⟩

/-- Tests whether a source is committed. -/
def committed (target : SourceTarget) : Bool := target.artifact.isSome

/-- Adds text to a source that is not committed. -/
def append (key : TargetKey) (target : SourceTarget) (text : String) :
    Except Failure SourceTarget :=
  if target.committed then .error (.closed (.source key))
  else .ok { target with content := target.content ++ text }

variable {σ : Type}

/-- Tests whether the destination of a source can be read back and holds a given text. -/
def holdsAlready (sink : Sink σ) (key : TargetKey) (fileName text : String) :
    Attempt (Outlet σ) Bool := do
  match ← (sink.readFrom .sources "" (key.packagePath ++ fileName)).outcome with
  | .ok existing => return existing == text
  | .error failure =>
    Outlet.note (.debug "codegen.writers"
      s!"No previously generated content for {key.toText}: {failure.message}")
    return false

/-- Reports that a destination held another text. -/
def reportOverwrite (key : TargetKey) (reason : Failure) : Attempt (Outlet σ) Unit :=
  Outlet.report .error ("Generated source file name collision. " ++
    s!"Attempt to overwrite already generated file: {key.toText}, {reason.message}")

/-- Settles a destination that counts as created: the same text is repeated, another collides. -/
def settle (sink : Sink σ) (key : TargetKey) (fileName text : String) (reason : Failure) :
    Attempt (Outlet σ) Artifact := do
  if ← holdsAlready sink key fileName text then
    Outlet.report .warning s!"Regenerated file with the same content: {key.toText}"
    return ⟨key, .source, true, false⟩
  else
    reportOverwrite key reason
    return ⟨key, .source, false, true⟩

/-- Writes the formatted text of a source, or settles a destination that counts as created. -/
def emit (sink : Sink σ) (key : TargetKey) (fileName text : String) :
    Attempt (Outlet σ) Artifact := do
  match ← (sink.writeTo .sources key.package fileName [text]).outcome with
  | .ok () => return ⟨key, .source, false, false⟩
  | .error failure =>
    if failure.kind = .destinationExists then settle sink key fileName text failure
    else if failure.kind.isSystem then Attempt.stop (.sourceNotWritten key failure.kind)
    else Attempt.stop failure

/-- Commits a source; if that fails, the source stays as it was. -/
def complete (sink : Sink σ) (style : SourceStyle) (key : TargetKey) (target : SourceTarget) :
    Attempt (Outlet σ) SourceTarget := do
  if target.committed then Attempt.stop (.closed (.source key))
  let text ← .ofExcept (style.formatter target.content)
  let artifact ← emit sink key (key.name ++ style.suffix) text
  Outlet.note (.debug "codegen.writers" s!"Committed source file {key.toText}")
  return { target with artifact := some artifact }

end SourceTarget

end Stencil
