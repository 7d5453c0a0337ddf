/-! The words that templates know: filters, tests, and the operations of generation. -/

namespace Stencil.Template

/-- The filters of expressions. -/
inductive Filter where
  | lower
  | upper
  | join
  | trim
  | collapsible
  | linesShortable
deriving DecidableEq, Repr

/-- The tests of expressions. -/
inductive Probe where
  | defined
  | undefined
  | none
deriving DecidableEq, Repr

/-- The operations that templates invoke. -/
inductive Operation where
  | source
  | service
  | error
  | system
  | trim
  | collapsible
  | linesShortable
deriving DecidableEq, Repr

/-- The name under which templates find the operations. -/
def facadeWord : String := "output"

/-- The word of each filter. -/
def Filter.word : Filter → String
  | lower => "lower"
  | upper => "upper"
  | join => "join"
  | trim => "trim"
  | collapsible => "collapsible"
  | linesShortable => "lines_shortable"

/-- The filter that a word names. -/
def Filter.ofWord? (word : String) : Option Filter :=
  [lower, upper, join, trim, collapsible, linesShortable].find? fun filter => filter.word == word

/-- The word of each test. -/
def Probe.word : Probe → String
  | defined => "defined"
  | undefined => "undefined"
  | none => "none"

/-- The test that a word names. -/
def Probe.ofWord? (word : String) : Option Probe :=
  [defined, undefined, none].find? fun probe => probe.word == word

/-- The word of each operation. -/
def Operation.word : Operation → String
  | source => "source"
  | service => "service"
  | error => "error"
  | system => "system"
  | trim => "trim"
  | collapsible => "collapsible"
  | linesShortable => "lines_shortable"

/-- The operation that a word names. -/
def Operation.ofWord? (word : String) : Option Operation :=
  [source, service, error, system, trim, collapsible, linesShortable].find? fun operation =>
    operation.word == word

/-- What a call may be given: the parameters that a position may fill, then those that take a
name only. -/
structure Signature where
  placed : List String
  namedOnly : List String

/-- The signature of each filter, its subject first. -/
def Filter.signature : Filter → Signature
  | lower => ⟨["s"], []⟩
  | upper => ⟨["s"], []⟩
  | join => ⟨["value", "d"], []⟩
  | trim => ⟨["param"], []⟩
  | collapsible => ⟨["param"], []⟩
  | linesShortable => ⟨["param", "indent"], []⟩

/-- The signature of each operation. -/
def Operation.signature : Operation → Signature
  | source => ⟨["namespace", "simple_name", "body"], ["caller"]⟩
  | service => ⟨["interface_name", "body"], ["caller"]⟩
  | error => ⟨["message"], []⟩
  | system => ⟨["message"], []⟩
  | trim => ⟨["param"], ["caller"]⟩
  | collapsible => ⟨["param"], ["caller"]⟩
  | linesShortable => ⟨["param", "indent"], ["caller"]⟩

end Stencil.Template
