import Stencil.Sink
import Stencil.Target.Artifact
import Stencil.Target.Manifest

/-! Service targets: manifests that collect lines over a pass and are committed at its end. -/

namespace Stencil

/-- A service target: the lines collected so far, and what it was committed as. -/
structure ServiceTarget where
  lines : List String
  artifact : Option Artifact

namespace ServiceTarget

/-- A service target without lines. -/
def fresh : ServiceTarget := ⟨[], none⟩

/-- Tests whether a service is committed. -/
def completed (target : ServiceTarget) : Bool := target.artifact.isSome

/-- Adds the lines of a text to a service that is not committed. -/
def append (key : TargetKey) (target : ServiceTarget) (text : String) :
    Except Failure ServiceTarget :=
  if target.completed then .error (.closed (.service key))
  else .ok { target with lines := target.lines ++ Stencil.lines text }

variable {σ : Type}

/-- The entries kept from an earlier build; a manifest that cannot be read has none. -/
def existingEntries (sink : Sink σ) (key : TargetKey) : Attempt (Outlet σ) (List String) := do
  match ← (sink.readFrom .classes key.package key.name).outcome with
  | .ok existing => return Manifest.kept existing
  | .error failure =>
    Outlet.note (.debug "codegen.writers"
      s!"No existing entries for {key.toText}: {failure.message}")
    return []

/-- Writes the entries of a service. -/
def emit (sink : Sink σ) (key : TargetKey) (entries : List String) :
    Attempt (Outlet σ) Unit := do
  match ← (sink.writeTo .classes key.package key.name (entries.map Manifest.line)).outcome with
  | .ok () => return ()
  | .error failure =>
    if failure.kind.isSystem || failure.kind == .destinationExists then
      Attempt.stop (.serviceNotWritten key failure.kind)
    else Attempt.stop failure

/-- Commits a service, merged with the entries of earlier builds; if that fails, the service stays
as it was. -/
def complete (sink : Sink σ) (key : TargetKey) (target : ServiceTarget) :
    Attempt (Outlet σ) ServiceTarget := do
  if target.completed then Attempt.stop (.closed (.service key))
  let entries := Manifest.merge (← existingEntries sink key) target.lines
  emit sink key entries
  Outlet.note (.debug "codegen.writers"
    s!"Committed service file {key.toText} with {entries.length} entries")
  return { target with artifact := some ⟨key, .service, false, false⟩ }

end ServiceTarget

end Stencil
