import Stencil.Failure

/-! Diagnostics of a pass and the records of its log. -/

namespace Stencil

/-- How grave a diagnostic is. -/
inductive Severity where
  | error
  | warning
  | info
deriving DecidableEq, Repr

namespace Severity

/-- The word for a severity. -/
def word : Severity → String
  | error => "error"
  | warning => "warning"
  | info => "info"

/-- The severity that a word names. -/
def ofWord? (word : String) : Option Severity :=
  [error, warning, info].find? fun severity => severity.word == word

/-- The severity that a word names, or a failure that lists the known ones. -/
def ofWord (word : String) : Except Failure Severity :=
  match ofWord? word with
  | some severity => .ok severity
  | none => .error (.badValue (.unknownSeverity word))

end Severity

/-- A message for the user of a pass. -/
structure Diagnostic where
  severity : Severity
  message : String
deriving DecidableEq, Repr

/-- Counts the diagnostics of one severity. -/
def countSeverity (severity : Severity) (diagnostics : List Diagnostic) : Nat :=
  diagnostics.countP fun diagnostic => diagnostic.severity == severity

/-- Tests whether any diagnostic is an error. -/
def hasErrors (diagnostics : List Diagnostic) : Bool :=
  decide (0 < countSeverity .error diagnostics)

/-- The levels of log records, from the least to the most important. -/
inductive LogLevel where
  | debug
  | info
  | warning
  | error
deriving DecidableEq, Repr

namespace LogLevel

/-- The word for a level. -/
def word : LogLevel → String
  | debug => "DEBUG"
  | info => "INFO"
  | warning => "WARNING"
  | error => "ERROR"

/-- The rank of a level; more important ones rank higher. -/
def rank : LogLevel → Nat
  | debug => 0
  | info => 1
  | warning => 2
  | error => 3

end LogLevel

/-- The level at which diagnostics of a severity are logged. -/
def Severity.level : Severity → LogLevel
  | .error => .error
  | .warning => .warning
  | .info => .info

/-- One record of the log. -/
structure LogRecord where
  level : LogLevel
  channel : String
  message : String
deriving DecidableEq, Repr

/-- The line that shows a record. -/
def LogRecord.line (entry : LogRecord) : String :=
  s!"{entry.level.word} {entry.channel}: {entry.message}"

/-- A record of the finest level. -/
def LogRecord.debug (channel message : String) : LogRecord := ⟨.debug, channel, message⟩

end Stencil
