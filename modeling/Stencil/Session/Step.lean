import Stencil.Datum
import Stencil.Sink.Files
import Stencil.Sink.Scripted
import Stencil.Target.Source

/-! The steps of a session: operations on passes, targets, sinks and the disk, as data. -/

namespace Stencil.Session

/-- What backs the sink of a pass: files, or a script. -/
inductive BackingChoice where
  | files (settings : FileSettings)
  | scripted (script : SinkScript)

/-- The settings of a new pass. -/
structure PassSettings where
  backing : BackingChoice
  style : SourceStyle

/-- What a path is set to: a file with its content, or a directory. -/
inductive NewContent where
  | file (content : ByteArray)
  | directory

/-- Steps that run nothing else. -/
inductive Task where
  | error (message : Datum)
  | system (message : Datum)
  | finalize
  | artifacts
  | finalized
  | requestSource (id : String) (package name : Option String)
  | requestService (id : String) (package name : Option String)
  | newSource (id : String) (package name : Option String) (style : SourceStyle)
  | newService (id : String) (package name : Option String)
  | append (id text : String)
  | complete (id : String)
  | inspect (id : String)
  | keys
  | has (kind : TargetKind) (package name : Option String)
  | newPass (settings : PassSettings)
  | resolve (place package name : String)
  | write (place package name text : String)
  | read (place package name : String)
  | report (severity message : String)
  | count (severity : String)
  | hasErrors
  | put (path : String) (content : NewContent)
  | delete (path : String)
  | view (path : String)

mutual

/-- A step: an operation that may run a renderer, or a task. -/
inductive Step where
  | source (package name : Datum) (body caller : Content)
  | service (interface : Datum) (body caller : Content)
  | trim (body caller : Content)
  | collapsible (body caller : Content)
  | linesShortable (body caller : Content) (indent : Datum)
  | task (task : Task)

/-- The content given to an operation: none, a value, or the renderings of a renderer in order. -/
inductive Content where
  | missing
  | value (datum : Datum)
  | rendered (renderings : List Rendering)

/-- One rendering: a value, or steps to run before a failure or a value. -/
inductive Rendering where
  | plain (datum : Datum)
  | stepped (steps : List Step) (failure : Option Failure) (text : Datum)

end

instance : Inhabited Step := ⟨.task .finalized⟩

instance : Inhabited Content := ⟨.missing⟩

instance : Inhabited Rendering := ⟨.plain .null⟩

end Stencil.Session
