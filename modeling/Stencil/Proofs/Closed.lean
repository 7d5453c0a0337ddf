import Stencil.Proofs.Script.Uses
import Stencil.Sink.Scripted

/-! Closed passes: once a pass was closed, every call that asks for a target and every call that
closes the pass is refused before anything renders, however the calls are put together, and nothing
changes but what is reported, printed and remembered. -/

namespace Stencil

open Attempt

variable {σ μ α β : Type}

namespace Move

/-- A move reports, prints or remembers. -/
def Speaks : Move μ → Prop
  | .error _ | .system _ | .remember _ => True
  | _ => False

/-- The diagnostics that a move reports of itself. -/
def reported : Move μ → List Diagnostic
  | .error message => [⟨.error, strip message⟩]
  | _ => []

/-- The text that a move prints. -/
def printed : Move μ → String
  | .system message => strip message ++ "\n"
  | _ => ""

end Move

namespace Pass

/-- Two programs over a pass, the second of which is the first with a refusal in place of every
call that asks for a target or closes the pass. The programs may read the pass, recover from
failures, and say the given words; a body may be anything. -/
inductive Refused (setup : Setup σ) (words : Move μ → Prop) :
    {α : Type} → Attempt (Pass σ μ) α → Attempt (Pass σ μ) α → Prop where
  | answer {α : Type} (result : Except Failure α) :
      Refused setup words (.ofExcept result) (.ofExcept result)
  | state : Refused setup words Attempt.state Attempt.state
  | bind {α β : Type} {first first' : Attempt (Pass σ μ) α}
      {next next' : α → Attempt (Pass σ μ) β} (begins : Refused setup words first first')
      (goes : ∀ value, Refused setup words (next value) (next' value)) :
      Refused setup words (first >>= next) (first' >>= next')
  | outcome {α : Type} {body body' : Attempt (Pass σ μ) α} (inner : Refused setup words body body') :
      Refused setup words body.outcome body'.outcome
  | error (message : String) (word : words (.error message)) :
      Refused setup words (Pass.error message) (Pass.error message)
  | system (message : String) (word : words (.system message)) :
      Refused setup words (Pass.system message) (Pass.system message)
  | remember (memory : μ) (word : words (.remember memory)) :
      Refused setup words (.change fun pass => { pass with memory })
        (.change fun pass => { pass with memory })
  | source (package name : String) (body : Attempt (Pass σ μ) String) :
      Refused setup words (Pass.source setup package name body) (.stop (.closed .pass))
  | service (interface : String) (body : Attempt (Pass σ μ) String) :
      Refused setup words (Pass.service interface body) (.stop (.closed .pass))
  | requestSource (package name : Option String) :
      Refused setup words (Pass.requestSource package name) (.stop (.closed .pass))
  | requestService (package name : Option String) :
      Refused setup words (Pass.requestService package name) (.stop (.closed .pass))
  | finalize : Refused setup words (Pass.finalize setup) (.stop (.closed .pass))

namespace Refused

variable {setup : Setup σ} {words : Move μ → Prop} {render render' : Renderer (Attempt (Pass σ μ))}

/-- A rendering that is trimmed is refused what it asks for. -/
theorem trim (calls : ∀ call, Refused setup words (render call) (render' call)) :
    Refused setup words (Shaping.trim render) (Shaping.trim render') :=
  (calls 0).bind fun text => .answer (.ok (strip text))

/-- Renderings that may be collapsed are refused what they ask for. -/
theorem collapsible (calls : ∀ call, Refused setup words (render call) (render' call)) :
    Refused setup words (Shaping.collapsible render) (Shaping.collapsible render') := by
  -- The second rendering takes place only for a text that is not blank.
  refine (calls 0).bind fun first => ?_
  split
  · exact .answer (.ok "")
  · exact calls 1

/-- Renderings that may be shortened are refused what they ask for. -/
theorem linesShortable {width width' : Attempt (Pass σ μ) Int}
    (calls : ∀ call, Refused setup words (render call) (render' call))
    (measures : Refused setup words width width') :
    Refused setup words (Shaping.linesShortable render width)
      (Shaping.linesShortable render' width') := by
  -- The body is rendered, the width is measured, and the body may be rendered once more.
  refine (calls 0).bind fun first => measures.bind fun _ => ?_
  split
  · exact .answer (.ok _)
  · exact calls 1

end Refused

end Pass

/-- The carrier that refuses every move but those that speak. -/
def Setup.refuser (setup : Setup σ) : Carrier (Pass σ μ) μ where
  act
    | .error message => Move.run setup (.error message)
    | .system message => Move.run setup (.system message)
    | .remember memory => Move.run setup (.remember memory)
    | _ => .stop (.closed .pass)
  memory := Pass.memory
  look path pass := setup.look path pass.outlet.state

/-- A script is refused whatever it asks for, wherever it is nested. -/
theorem Script.refused (setup : Setup σ) {words : Move μ → Prop} {script : Script μ}
    (uses : script.Uses fun move => move.Speaks → words move) :
    Pass.Refused setup words (script.run setup) (script.interpret setup.refuser) := by
  induction script with
  | done text => exact .answer (.ok text)
  | fail failure => exact .answer (.error failure)
  | source package name body next bodies rest =>
    -- Neither the body nor anything after the call is reached.
    exact (Pass.Refused.source package name _).bind fun _ => rest uses.2.2
  | service interface body next bodies rest =>
    exact (Pass.Refused.service interface _).bind fun _ => rest uses.2.2
  | error message next rest =>
    exact (Pass.Refused.error message (uses.1 trivial)).bind fun _ => rest uses.2
  | system message next rest =>
    exact (Pass.Refused.system message (uses.1 trivial)).bind fun _ => rest uses.2
  -- What wraps a body is refused what the body asks for.
  | trim body next bodies rest =>
    exact (Pass.Refused.trim fun call => bodies call (uses.1 call)).bind
      fun text => rest text (uses.2 text)
  | collapsible body next bodies rest =>
    exact (Pass.Refused.collapsible fun call => bodies call (uses.1 call)).bind
      fun text => rest text (uses.2 text)
  | linesShortable body width next bodies rest =>
    exact (Pass.Refused.linesShortable (fun call => bodies call (uses.1 call))
      (.answer width)).bind fun text => rest text (uses.2 text)
  | finalize next rest => exact Pass.Refused.finalize.bind fun _ => rest uses.2
  | recover body next inner rest =>
    exact (inner uses.1).outcome.bind fun outcome => rest outcome (uses.2 outcome)
  -- Looking is allowed on a closed pass.
  | look path next rest => exact Pass.Refused.state.bind fun _ => rest _ (uses _)
  | remembered next rest => exact Pass.Refused.state.bind fun _ => rest _ (uses _)
  | remember memory next rest =>
    exact (Pass.Refused.remember memory (uses.1 trivial)).bind fun _ => rest uses.2

namespace Pass

/-- A later pass is an earlier one to which some moves spoke: nothing else has changed. -/
structure Spoken (said : List (Move μ)) (before after : Pass σ μ) : Prop where
  state : after.outlet.state = before.outlet.state
  sources : after.sources = before.sources
  services : after.services = before.services
  artifacts : after.artifacts = before.artifacts
  finalized : after.finalized = before.finalized
  diagnostics : after.outlet.diagnostics = before.outlet.diagnostics ++ said.flatMap Move.reported
  console : after.console = before.console ++ String.join (said.map Move.printed)

/-- Where nothing is said, nothing has changed. -/
theorem Spoken.refl (pass : Pass σ μ) : Spoken [] pass pass :=
  ⟨rfl, rfl, rfl, rfl, rfl, (List.append_nil _).symm, String.append_empty.symm⟩

/-- What is said later follows what was said before. -/
theorem Spoken.trans {said more : List (Move μ)} {first second third : Pass σ μ}
    (left : Spoken said first second) (right : Spoken more second third) :
    Spoken (said ++ more) first third where
  state := right.state.trans left.state
  sources := right.sources.trans left.sources
  services := right.services.trans left.services
  artifacts := right.artifacts.trans left.artifacts
  finalized := right.finalized.trans left.finalized
  diagnostics := by rw [right.diagnostics, left.diagnostics, List.append_assoc, List.flatMap_append]
  console := by
    rw [right.console, left.console, List.map_append, String.join_append, String.append_assoc]

/-- A closed pass refuses to go on, whatever was meant to come next. -/
theorem checkOpen_closed {pass : Pass σ μ} (closed : pass.finalized = true)
    (next : Unit → Attempt (Pass σ μ) α) :
    (checkOpen >>= next) pass = (.error (.closed .pass), pass) := by
  simp only [bind_apply, checkOpen, closed, if_true]

/-- On a closed pass, no call that writes a source reaches its body. -/
theorem source_closed (setup : Setup σ) {pass : Pass σ μ} (closed : pass.finalized = true)
    (package name : String) (body : Attempt (Pass σ μ) String) :
    Pass.source setup package name body pass = (.error (.closed .pass), pass) := by
  -- The request comes first.
  have request : Pass.requestSource (some package) (some name) pass =
      (.error (.closed .pass), pass) := checkOpen_closed closed _
  rw [Pass.source, bind_apply, request]

/-- On a closed pass, no call that contributes to a service reaches its body. -/
theorem service_closed {pass : Pass σ μ} (closed : pass.finalized = true) (interface : String)
    (body : Attempt (Pass σ μ) String) :
    Pass.service interface body pass = (.error (.closed .pass), pass) := by
  -- The request comes first.
  have request : Pass.requestService (some "") (some (serviceRoot ++ interface)) pass =
      (.error (.closed .pass), pass) := checkOpen_closed closed _
  rw [Pass.service, bind_apply, request]

/-- On a closed pass, a program does what it does if it is refused all that it asks for, and only
speaks. -/
theorem Refused.on_closed {setup : Setup σ} {words : Move μ → Prop}
    {attempt refused : Attempt (Pass σ μ) α} (calls : Refused setup words attempt refused)
    {pass : Pass σ μ} (closed : pass.finalized = true) :
    attempt pass = refused pass ∧
      ∃ said : List (Move μ), (∀ move ∈ said, move.Speaks ∧ words move) ∧
        Spoken said pass (refused pass).2 := by
  -- One word is said by each call that speaks, and none by any other call.
  have silent : ∀ pass : Pass σ μ, ∃ said : List (Move μ),
      (∀ move ∈ said, move.Speaks ∧ words move) ∧ Spoken said pass pass :=
    fun pass => ⟨[], by simp, .refl pass⟩
  induction calls generalizing pass with
  | answer result => exact ⟨rfl, silent pass⟩
  | state => exact ⟨rfl, silent pass⟩
  | @bind _ _ first first' next next' begins goes earlier later =>
    obtain ⟨same, said, allowed, spoken⟩ := earlier closed
    rw [bind_apply, bind_apply, same]
    generalize first' pass = answer at spoken ⊢
    obtain ⟨failure | value, after⟩ := answer
    · exact ⟨rfl, said, allowed, spoken⟩
    -- The first part leaves the pass closed, so the second one is refused as well.
    · obtain ⟨again, more, alsoAllowed, alsoSpoken⟩ :=
        later value (spoken.finalized.trans closed)
      refine ⟨again, said ++ more, fun move member => ?_, spoken.trans alsoSpoken⟩
      exact (List.mem_append.1 member).elim (allowed move) (alsoAllowed move)
  -- A caught failure says what the failing part has said.
  | outcome inner body =>
    obtain ⟨same, spoken⟩ := body closed
    exact ⟨by rw [outcome_apply, outcome_apply, same], spoken⟩
  | error message word =>
    refine ⟨rfl, [.error message], by simpa [Move.Speaks] using word, ?_⟩
    exact ⟨rfl, rfl, rfl, rfl, rfl, rfl, String.append_empty.symm⟩
  -- The message is all that is added, in the console.
  | system message word =>
    refine ⟨rfl, [.system message], by simpa [Move.Speaks] using word, ?_⟩
    refine ⟨rfl, rfl, rfl, rfl, rfl, (List.append_nil _).symm, ?_⟩
    show pass.console ++ strip message ++ "\n" = _
    simp [Move.printed, String.append_assoc]
  | remember memory word =>
    refine ⟨rfl, [.remember memory], by simpa [Move.Speaks] using word, ?_⟩
    exact ⟨rfl, rfl, rfl, rfl, rfl, (List.append_nil _).symm, String.append_empty.symm⟩
  -- A request is refused before it says a word.
  | source package name body => exact ⟨source_closed setup closed package name body, silent pass⟩
  | service interface body => exact ⟨service_closed closed interface body, silent pass⟩
  | requestSource package name => exact ⟨checkOpen_closed closed _, silent pass⟩
  | requestService package name => exact ⟨checkOpen_closed closed _, silent pass⟩
  | finalize => exact ⟨checkOpen_closed closed _, silent pass⟩

/-- Once a pass was closed, with success or not, whatever follows does what it does if every call
that asks for a target or closes the pass is refused before anything renders, and it changes nothing
but by its words. -/
theorem finalized_refuses (setup : Setup σ) (pass : Pass σ μ) {words : Move μ → Prop}
    {attempt refused : Attempt (Pass σ μ) α} (calls : Refused setup words attempt refused) :
    attempt (finalize setup pass).2 = refused (finalize setup pass).2 ∧
      ∃ said : List (Move μ), (∀ move ∈ said, move.Speaks ∧ words move) ∧
        Spoken said (finalize setup pass).2 (attempt (finalize setup pass).2).2 := by
  -- Closing has set the flag before anything could fail.
  have closed : (finalize setup pass).2.finalized = true := by
    have closes := Move.finalize_closes setup pass
    rwa [Move.run_finalize] at closes
  obtain ⟨same, said, allowed, spoken⟩ := calls.on_closed closed
  exact ⟨same, said, allowed, by rwa [same]⟩

/-- A setup whose sink refuses every destination. -/
def refusingSetup : Setup ScriptedState :=
  ⟨SinkScript.sink ⟨some (.raised (.system .general) "full"), .ok ""⟩, ⟨".py", Layout.normalizer⟩,
    fun _ _ => none⟩

/-- A pass with a service that cannot be committed. -/
def withService : Pass ScriptedState Unit :=
  ((Script.service "I" (fun _ => .done "a") (.done "")).run refusingSetup
    (.start ⟨[], ""⟩ [] ())).2

/-- A script that asks for targets and for the closing of the pass inside of each shaping, and
then speaks. -/
def lateCalls : Script Unit :=
  .recover (.trim (fun _ => .source "p" "n" (fun _ => .error "body" (.done "x")) (.done "")) .done)
    fun _ => .recover
      (.collapsible (fun _ => .service "I" (fun _ => .system "body" (.done "b")) (.done "")) .done)
      fun _ => .recover (.linesShortable (fun _ => .finalize (.done "")) (.ok 0) .done)
        fun _ => .error "late" (.system "said" (.done ""))

/-- The pass is left half closed, and what comes late is heard but not done. -/
theorem late_calls_refused :
    (finalize refusingSetup withService).1 =
        .error (.serviceNotWritten (serviceKey "I") (.system .general)) ∧
      Refused refusingSetup (fun _ => True) (lateCalls.run refusingSetup)
        (lateCalls.interpret refusingSetup.refuser) ∧
      (lateCalls.run refusingSetup (finalize refusingSetup withService).2 =
          lateCalls.interpret refusingSetup.refuser (finalize refusingSetup withService).2 ∧
        ∃ said : List (Move Unit), (∀ move ∈ said, move.Speaks ∧ True) ∧
          Spoken said (finalize refusingSetup withService).2
            (lateCalls.run refusingSetup (finalize refusingSetup withService).2).2) := by
  -- All of its words are allowed.
  have calls : Refused refusingSetup (fun _ => True) (lateCalls.run refusingSetup)
      (lateCalls.interpret refusingSetup.refuser) :=
    Script.refused refusingSetup (by simp [lateCalls, Script.Uses])
  exact ⟨rfl, calls, finalized_refuses refusingSetup withService calls⟩

end Pass

end Stencil
