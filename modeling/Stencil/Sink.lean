import Stencil.Attempt
import Stencil.Diagnostic

/-! Sinks: where targets are written and read back, each step of which may fail. -/

namespace Stencil

/-- The two kinds of output location. -/
inductive Place where
  | sources
  | classes
deriving DecidableEq, Repr

namespace Place

/-- The name of a location. -/
def word : Place → String
  | sources => "source-output"
  | classes => "class-output"

/-- The location that a name stands for, or a failure that lists the known ones. -/
def ofWord (word : String) : Except Failure Place :=
  match [sources, classes].find? fun place => place.word == word with
  | some place => .ok place
  | none => .error (.badValue (.unknownLocation word))

end Place

/-- The operations of a sink on its own state. -/
structure Sink (σ : Type) where
  Stream : Type
  openWrite : Place → String → String → Attempt σ Stream
  write : Stream → String → Attempt σ Unit
  close : Stream → Attempt σ Unit
  openRead : Place → String → String → Attempt σ Stream
  read : Stream → Attempt σ String
  opened : Stream → Option LogRecord

/-- What targets act on: the state of a sink, the diagnostics so far, and the log. -/
structure Outlet (σ : Type) where
  state : σ
  diagnostics : List Diagnostic
  log : List LogRecord

namespace Outlet

variable {σ : Type}

/-- Adds a record to the log. -/
def note (entry : LogRecord) : Attempt (Outlet σ) Unit :=
  .change fun outlet => { outlet with log := outlet.log ++ [entry] }

/-- Adds a diagnostic, which is logged as well. -/
def report (severity : Severity) (message : String) : Attempt (Outlet σ) Unit :=
  .change fun outlet =>
    { outlet with
      diagnostics := outlet.diagnostics ++ [⟨severity, message⟩]
      log := outlet.log ++ [⟨severity.level, "codegen.diagnostics", message⟩] }

/-- Runs an operation of the sink. -/
def onSink {α : Type} (attempt : Attempt σ α) : Attempt (Outlet σ) α :=
  attempt.onPart Outlet.state fun state outlet => { outlet with state }

end Outlet

namespace Sink

variable {σ : Type}

/-- Uses a stream and closes it in any case; a failure of closing hides an earlier one. -/
def during {α : Type} (sink : Sink σ) (stream : sink.Stream) (body : Attempt σ α) :
    Attempt σ α := do
  let result ← body.outcome
  sink.close stream
  .ofExcept result

/-- Writes texts to a stream one after the other, up to the first failure. -/
def writeAll (sink : Sink σ) (stream : sink.Stream) : List String → Attempt σ Unit
  | [] => pure ()
  | text :: rest => do
    sink.write stream text
    sink.writeAll stream rest

/-- Opens a destination for writing and logs that it is open. -/
def openLogged (sink : Sink σ) (place : Place) (package name : String) :
    Attempt (Outlet σ) sink.Stream := do
  let stream ← Outlet.onSink (sink.openWrite place package name)
  match sink.opened stream with
  | some entry => Outlet.note entry
  | none => pure ()
  return stream

/-- Writes texts to a destination. -/
def writeTo (sink : Sink σ) (place : Place) (package name : String) (texts : List String) :
    Attempt (Outlet σ) Unit := do
  let stream ← sink.openLogged place package name
  Outlet.onSink (sink.during stream (sink.writeAll stream texts))

/-- Reads all that stands at a destination. -/
def readFrom (sink : Sink σ) (place : Place) (package name : String) :
    Attempt (Outlet σ) String :=
  Outlet.onSink do
    let stream ← sink.openRead place package name
    sink.during stream (sink.read stream)

/-- The same sink on a part of a larger state. -/
def onPart {τ : Type} (part : τ → σ) (replace : σ → τ → τ) (sink : Sink σ) : Sink τ where
  Stream := sink.Stream
  openWrite place package name := (sink.openWrite place package name).onPart part replace
  write stream text := (sink.write stream text).onPart part replace
  close stream := (sink.close stream).onPart part replace
  openRead place package name := (sink.openRead place package name).onPart part replace
  read stream := (sink.read stream).onPart part replace
  opened := sink.opened

end Sink

end Stencil
