import Stencil.Proofs.Pass.Move
import Stencil.Script

/-! Scripts carried out on other states than passes: what follows each single move follows the whole
script. -/

namespace Stencil

/-- A way to carry out scripts on states of some kind: what a move does, what is remembered, and how
a file is looked at. -/
structure Carrier (τ μ : Type) where
  act : Move μ → Attempt τ Unit
  memory : τ → μ
  look : Path → τ → Option ByteArray

namespace Carrier

variable {τ μ : Type}

/-- Carries out a call that writes a source. -/
def source (carrier : Carrier τ μ) (key : TargetKey) (body : Attempt τ String) :
    Attempt τ Unit := do
  carrier.act (.requestSource key)
  match ← body.outcome with
  | .ok text => carrier.act (.settleSource key text)
  | .error failure => carrier.act (.dropSource key failure)

/-- Carries out a call that contributes to a service. -/
def service (carrier : Carrier τ μ) (interface : String) (body : Attempt τ String) :
    Attempt τ Unit := do
  carrier.act (.requestService interface)
  match ← body.outcome with
  | .ok text => carrier.act (.contribute interface text)
  | .error failure => carrier.act (.dropService interface failure)

/-- The carrier that looks at no file. -/
def blindfold (carrier : Carrier τ μ) : Carrier τ μ := { carrier with look := fun _ _ => none }

end Carrier

/-- Passes carry out moves as they are. -/
def Setup.carrier {σ μ : Type} (setup : Setup σ) : Carrier (Pass σ μ) μ where
  act := Move.run setup
  memory := Pass.memory
  look path pass := setup.look path pass.outlet.state

namespace Script

open Attempt

variable {σ τ υ μ α β : Type}

/-- Carries out a script; the first failure that it does not recover from ends it. -/
def interpret (carrier : Carrier τ μ) : Script μ → Attempt τ String
  | .done text => pure text
  | .fail failure => .stop failure
  | .source package name body next => do
    carrier.source ⟨package, name⟩ (interpret carrier (body 0))
    interpret carrier next
  | .service interface body next => do
    carrier.service interface (interpret carrier (body 0))
    interpret carrier next
  | .error message next => do
    carrier.act (.error message)
    interpret carrier next
  | .system message next => do
    carrier.act (.system message)
    interpret carrier next
  | .trim body next => do
    let text ← Shaping.trim fun call => interpret carrier (body call)
    interpret carrier (next text)
  | .collapsible body next => do
    let text ← Shaping.collapsible fun call => interpret carrier (body call)
    interpret carrier (next text)
  | .linesShortable body width next => do
    let text ← Shaping.linesShortable (fun call => interpret carrier (body call)) (.ofExcept width)
    interpret carrier (next text)
  | .finalize next => do
    carrier.act .finalize
    interpret carrier next
  | .recover body next => do
    let outcome ← (interpret carrier body).outcome
    interpret carrier (next outcome)
  | .look path next => do
    let state ← Attempt.state
    interpret carrier (next (carrier.look path state))
  | .remembered next => do
    let state ← Attempt.state
    interpret carrier (next (carrier.memory state))
  | .remember memory next => do
    carrier.act (.remember memory)
    interpret carrier next

/-- A call that writes a source is its moves, with the body between them. -/
theorem source_eq (setup : Setup σ) (package name : String) (body : Attempt (Pass σ μ) String)
    (next : Attempt (Pass σ μ) α) :
    (Pass.source setup package name body >>= fun _ => next) =
      (setup.carrier.source ⟨package, name⟩ body >>= fun _ => next) := by
  -- Both sides ask for the key first, and end with the failure of the body if it has one.
  funext pass
  obtain ⟨log, result⟩ := Pass.requestSource_apply ⟨package, name⟩ pass
  simp only [Pass.source, Carrier.source, Setup.carrier, Move.run, bind_apply, outcome_apply, result]
  cases pass.finalized with
  | true => rfl
  | false =>
    simp only [Bool.false_eq_true, if_false, pure_apply]
    -- On an open pass, the body renders or fails in the same way.
    generalize body _ = answer
    obtain ⟨failure | text, after⟩ := answer
    · rfl
    · rcases settled : Pass.settleSource setup ⟨package, name⟩ text after with ⟨failure | _, last⟩ <;>
        simp [settled]

/-- A call that contributes to a service is its moves, with the body between them. -/
theorem service_eq (setup : Setup σ) (interface : String) (body : Attempt (Pass σ μ) String)
    (next : Attempt (Pass σ μ) α) :
    (Pass.service interface body >>= fun _ => next) =
      (setup.carrier.service interface body >>= fun _ => next) := by
  -- The two sides agree like those of a call that writes a source.
  funext pass
  obtain ⟨log, result⟩ := Pass.requestService_apply (Pass.serviceKey interface) pass
  simp only [Pass.serviceKey] at result
  simp only [Pass.service, Carrier.service, Setup.carrier, Move.run, bind_apply, outcome_apply,
    Pass.serviceKey, result]
  cases pass.finalized with
  | true => rfl
  | false =>
    simp only [Bool.false_eq_true, if_false, pure_apply]
    -- The body decides here as well whether there is a text to contribute.
    generalize body _ = answer
    obtain ⟨failure | text, after⟩ := answer
    · rfl
    · rcases added : Pass.appendService ⟨"", Pass.serviceRoot ++ interface⟩ text after with
        ⟨failure | _, last⟩ <;> simp [added]

/-- Running a script is carrying it out on the pass. -/
theorem run_eq_interpret (setup : Setup σ) (script : Script μ) :
    script.run setup = script.interpret setup.carrier := by
  -- Only the calls that write, and the closing of the pass, are spelled differently.
  induction script with
  | done text => rfl
  | fail failure => rfl
  | source package name body next bodies rest =>
    -- A call goes on behind its body.
    rw [run, interpret, source_eq, bodies, rest]
  | service interface body next bodies rest =>
    rw [run, interpret, service_eq setup, bodies, rest]
  | error message next rest =>
    rw [run, interpret, rest]
    rfl
  | system message next rest =>
    rw [run, interpret, rest]
    rfl
  | trim body next bodies rest => simp only [run, interpret, bodies, rest]
  | collapsible body next bodies rest => simp only [run, interpret, bodies, rest]
  | linesShortable body width next bodies rest => simp only [run, interpret, bodies, rest]
  | finalize next rest =>
    rw [run, interpret, rest]
    -- Closing answers with artifacts, which a script does not look at.
    funext pass
    simp only [Setup.carrier, Move.run, bind_apply]
    rcases Pass.finalize setup pass with ⟨failure | artifacts, after⟩ <;> rfl
  | recover body next inner rest => simp only [run, interpret, inner, rest]
  | look path next rest => simp only [run, interpret, rest, Setup.carrier]
  | remembered next rest => simp only [run, interpret, rest, Setup.carrier]
  | remember memory next rest =>
    rw [run, interpret, rest]
    rfl

end Script

end Stencil
