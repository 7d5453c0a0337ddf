import Stencil.Pass.Operations

/-! Scripts: what a template does to a pass, as a tree of the operations that it invokes. -/

namespace Stencil

/-- A program over the operations of a pass. It ends with a text or a failure; a body is a
renderer, whose n-th call is a script of its own; a script may recover from the failure of another,
look at files, and keep a memory that lasts as long as the pass. -/
inductive Script (μ : Type) where
  | done (text : String)
  | fail (failure : Failure)
  | source (package name : String) (body : Nat → Script μ) (next : Script μ)
  | service (interface : String) (body : Nat → Script μ) (next : Script μ)
  | error (message : String) (next : Script μ)
  | system (message : String) (next : Script μ)
  | trim (body : Nat → Script μ) (next : String → Script μ)
  | collapsible (body : Nat → Script μ) (next : String → Script μ)
  | linesShortable (body : Nat → Script μ) (width : Except Failure Int) (next : String → Script μ)
  | finalize (next : Script μ)
  | recover (body : Script μ) (next : Except Failure String → Script μ)
  | look (path : Path) (next : Option ByteArray → Script μ)
  | remembered (next : μ → Script μ)
  | remember (memory : μ) (next : Script μ)

namespace Script

variable {σ μ : Type}

instance : Inhabited (Script μ) := ⟨.done ""⟩

/-- Runs a script on a pass; the first failure that it does not recover from ends it. -/
def run (setup : Setup σ) : Script μ → Attempt (Pass σ μ) String
  | .done text => pure text
  | .fail failure => .stop failure
  | .source package name body next => do
    let _ ← Pass.source setup package name (run setup (body 0))
    run setup next
  | .service interface body next => do
    let _ ← Pass.service interface (run setup (body 0))
    run setup next
  | .error message next => do
    let _ ← Pass.error message
    run setup next
  | .system message next => do
    let _ ← Pass.system message
    run setup next
  | .trim body next => do
    let text ← Shaping.trim fun call => run setup (body call)
    run setup (next text)
  | .collapsible body next => do
    let text ← Shaping.collapsible fun call => run setup (body call)
    run setup (next text)
  | .linesShortable body width next => do
    let text ← Shaping.linesShortable (fun call => run setup (body call)) (.ofExcept width)
    run setup (next text)
  | .finalize next => do
    let _ ← Pass.finalize setup
    run setup next
  | .recover body next => do
    let outcome ← (run setup body).outcome
    run setup (next outcome)
  | .look path next => do
    let pass ← Attempt.state
    run setup (next (setup.look path pass.outlet.state))
  | .remembered next => do
    let pass ← Attempt.state
    run setup (next pass.memory)
  | .remember memory next => do
    Attempt.change fun pass => { pass with memory }
    run setup next

end Script

end Stencil
