import Stencil.Sink

/-! A scripted sink: it answers as told, touches no disk, and lists the calls that it received. -/

namespace Stencil

/-- A call that a sink received. -/
inductive SinkCall where
  | openWrite (place : Place) (package name : String)
  | close (text : String)
  | openRead (place : Place) (package name : String)
deriving DecidableEq, Repr

/-- What a scripted sink answers: a failure of every opening for writing, if any, and the text or
the failure of every reading. -/
structure SinkScript where
  write : Option Failure
  read : Except Failure String

/-- The calls received so far, and the text of the stream being written. -/
structure ScriptedState where
  calls : List SinkCall
  pending : String

/-- A stream of the scripted sink. -/
inductive ScriptedStream where
  | writing
  | reading (text : String)

namespace SinkScript

/-- Lists a call. -/
def record (call : SinkCall) : Attempt ScriptedState Unit :=
  .change fun state => { state with calls := state.calls ++ [call] }

/-- Opens an empty text for writing unless the script refuses. -/
def openOnce (script : SinkScript) (place : Place) (package name : String) :
    Attempt ScriptedState ScriptedStream := do
  record (.openWrite place package name)
  match script.write with
  | some failure => Attempt.stop failure
  | none =>
    Attempt.change fun state => { state with pending := "" }
    return .writing

/-- Opens the text of the script for reading unless it refuses. -/
def openExisting (script : SinkScript) (place : Place) (package name : String) :
    Attempt ScriptedState ScriptedStream := do
  record (.openRead place package name)
  return .reading (← .ofExcept script.read)

/-- The sink that follows a script. -/
def sink (script : SinkScript) : Sink ScriptedState where
  Stream := ScriptedStream
  openWrite := script.openOnce
  write _ text := .change fun state => { state with pending := state.pending ++ text }
  close
    | .writing => do record (.close (← Attempt.state).pending)
    | .reading _ => pure ()
  openRead := script.openExisting
  read
    | .writing => do return (← Attempt.state).pending
    | .reading text => pure text
  opened _ := none

end SinkScript

end Stencil
