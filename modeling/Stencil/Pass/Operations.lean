import Stencil.Pass
import Stencil.Shaping

/-! The operations that templates invoke on a pass: writing sources and services, reporting,
printing, and shaping text. -/

namespace Stencil

namespace Pass

variable {σ μ : Type}

/-- The start of the names of all service files. -/
def serviceRoot : String := "META-INF/services/"

/-- Reports that a source was committed before in the same pass. -/
def reportRepeated (key : TargetKey) : Attempt (Pass σ μ) Unit :=
  report .error ("Generated source file name collision. " ++
    s!"{key.toText} was already generated in this pass")

/-- Settles a source whose body has rendered: its text is committed, unless the source was committed
before. -/
def settleSource (setup : Setup σ) (key : TargetKey) (text : String) :
    Attempt (Pass σ μ) Unit := do
  if ((← Attempt.state).sourceAt key).committed then
    reportRepeated key
  else
    appendSource key text
    completeSource setup key

/-- Writes a source file. The target is requested first, then the body renders, and only then is
the target looked at: what the body itself committed counts. -/
def source (setup : Setup σ) (package name : String) (body : Attempt (Pass σ μ) String) :
    Attempt (Pass σ μ) String := do
  let key ← requestSource (some package) (some name)
  settleSource setup key (← body)
  return ""

/-- Contributes the lines of a body to a service file. -/
def service (interface : String) (body : Attempt (Pass σ μ) String) :
    Attempt (Pass σ μ) String := do
  let key ← requestService (some "") (some (serviceRoot ++ interface))
  appendService key (← body)
  return ""

/-- Reports an error. -/
def error (message : String) : Attempt (Pass σ μ) String := do
  report .error (strip message)
  return ""

/-- Prints a line. -/
def system (message : String) : Attempt (Pass σ μ) String := do
  Attempt.change fun pass => { pass with console := pass.console ++ strip message ++ "\n" }
  return ""

end Pass

end Stencil
