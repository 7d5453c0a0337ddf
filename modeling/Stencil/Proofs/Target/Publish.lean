import Stencil.Proofs.Manifest
import Stencil.Proofs.Pass.Collected
import Stencil.Proofs.Sink.Block
import Stencil.Proofs.Target.Service
import Stencil.Sink.Scripted

/-! Publishing texts as a manifest: they are collected in a service, which is then committed. What
is written depends on the text that is read and on the lines of the texts. -/

namespace Stencil

/-- The text that a call writes, if it does. -/
def SinkEvent.written? : SinkEvent → Option String
  | .write text => some text
  | _ => none

/-- The texts that were written to a watched sink, in order. -/
def Watched.texts {σ : Type} (watched : Watched σ) : List String :=
  watched.events.filterMap SinkEvent.written?

/-- A call that is listed adds the text that it writes, if it does. -/
theorem Watched.receive_texts {σ α : Type} {event : SinkEvent} {attempt : Attempt σ α}
    {watched after : Watched σ} {result : Except Failure α}
    (received : receive event attempt watched = (result, after)) :
    after.texts = watched.texts ++ [event].filterMap SinkEvent.written? := by
  rw [texts, (receive_eq received).2, List.filterMap_append]
  rfl

namespace Sink

open Attempt

variable {σ : Type} {sink : Sink σ}

/-- Texts that were written to a stream come after those that were written before. -/
theorem writeAll_texts {stream : sink.Stream} {texts : List String} {watched after : Watched σ}
    (done : sink.watched.writeAll stream texts watched = (.ok (), after)) :
    after.texts = watched.texts ++ texts := by
  -- Each of them is listed when it is written.
  induction texts generalizing watched with
  | nil =>
    cases done
    exact (List.append_nil _).symm
  | cons text rest ih =>
    have split := congrFun (writeAll_cons sink.watched stream text rest) watched
    obtain ⟨_, between, wrote, others⟩ := bind_eq_ok.1 (split.symm.trans done)
    rw [ih others, Watched.receive_texts wrote, List.append_assoc]
    rfl

/-- Texts that were written to a destination come after those that were written before. -/
theorem writeTo_texts {place : Place} {package name : String} {texts : List String}
    {outlet after : Outlet (Watched σ)}
    (done : sink.watched.writeTo place package name texts outlet = (.ok (), after)) :
    after.state.texts = outlet.state.texts ++ texts := by
  obtain ⟨log, wrote⟩ := sink.watched.writeTo_apply place package name texts outlet
  rw [wrote] at done
  rcases opened : sink.watched.openWrite place package name outlet.state with
    ⟨failure | stream, between⟩
  -- A destination that does not open lets nothing be written.
  · rw [opened] at done
    cases done
  -- Neither opening nor closing writes anything.
  rcases used : sink.watched.writeAll stream texts between with ⟨answer, middle⟩
  rcases closed : sink.watched.close stream middle with ⟨failure | _, last⟩
  · simp only [opened, during_apply, used, closed] at done
    cases done
  · simp only [opened, during_apply, used, closed] at done
    cases done
    show last.texts = _
    rw [Watched.receive_texts closed, writeAll_texts used, Watched.receive_texts opened]
    exact (List.append_nil _).trans (congrArg (· ++ texts) (List.append_nil _))

/-- Reading a destination writes nothing. -/
theorem readFrom_texts (place : Place) (package name : String) (outlet : Outlet (Watched σ)) :
    (sink.watched.readFrom place package name outlet).2.state.texts = outlet.state.texts := by
  -- Opening, reading and closing are all that is listed.
  obtain ⟨result, state, calls, read, block⟩ :=
    sink.watched.readFrom_block place package name outlet
  have silent : calls.filterMap SinkEvent.written? = [] := by cases block <;> rfl
  have listed := block.unwatched.2
  rw [read]
  simp [Watched.texts, listed, silent]

end Sink

namespace ServiceTarget

open Attempt

variable {σ : Type}

/-- A fresh service to which texts were added in order. -/
def collect (key : TargetKey) (texts : List String) : Except Failure ServiceTarget :=
  texts.foldlM (append key) fresh

/-- Collects texts in a service and commits it, with its artifact as the answer. -/
def publish (sink : Sink σ) (key : TargetKey) (texts : List String) :
    Attempt (Outlet σ) (Option Artifact) := do
  let target ← .ofExcept (collect key texts)
  return (← target.complete sink key).artifact

/-- A service that is not committed takes the lines of all texts. -/
theorem foldlM_append (key : TargetKey) (texts held : List String) :
    texts.foldlM (append key) ⟨held, none⟩ = .ok ⟨held ++ texts.flatMap Stencil.lines, none⟩ := by
  -- Each text adds its own lines, and commits nothing.
  induction texts generalizing held with
  | nil => simp [Pure.pure, Except.pure]
  | cons text rest ih =>
    have here : append key ⟨held, none⟩ text = .ok ⟨held ++ Stencil.lines text, none⟩ := rfl
    rw [List.foldlM_cons, here]
    refine (ih _).trans ?_
    rw [List.flatMap_cons, List.append_assoc]

/-- Collected texts make up a service with the lines of all of them. -/
theorem collect_eq (key : TargetKey) (texts : List String) :
    collect key texts = .ok ⟨texts.flatMap Stencil.lines, none⟩ :=
  foldlM_append key texts []

/-- Publishing commits a service with the lines of all texts. -/
theorem publish_eq_complete (sink : Sink σ) (key : TargetKey) (texts : List String) :
    publish sink key texts = (do
      let target ← complete sink key ⟨texts.flatMap Stencil.lines, none⟩
      return target.artifact) := by
  rw [publish, collect_eq]
  rfl

/-- Publishing merges the lines of the texts into the entries that are there, and writes them. -/
theorem publish_eq (sink : Sink σ) (key : TargetKey) (texts : List String) :
    publish sink key texts = (do
      let earlier ← existingEntries sink key
      let entries := Manifest.merge earlier (texts.flatMap Stencil.lines)
      emit sink key entries
      Outlet.note (.debug "codegen.writers"
        s!"Committed service file {key.toText} with {entries.length} entries")
      return some (committedAs key)) := by
  -- The service was not committed before, so it is committed now.
  rw [publish_eq_complete, complete, if_neg (by simp [completed])]
  simp only [bind_assoc, pure_bind]
  rfl

/-- Services that merge alike are published alike. -/
theorem publish_congr {texts others : List String}
    (same : ∀ earlier, Manifest.merge earlier (texts.flatMap Stencil.lines) =
      Manifest.merge earlier (others.flatMap Stencil.lines)) (sink : Sink σ) (key : TargetKey) :
    publish sink key texts = publish sink key others := by
  simp only [publish_eq, same]

/-- Texts are published on a watched sink: it held a text before, or none that could be read, and
the commit succeeds and writes another one. -/
structure Publishes (sink : Sink σ) (key : TargetKey) (texts : List String)
    (outlet : Outlet (Watched σ)) (prior text : String) : Prop where
  blank : outlet.state.events = []
  found : (sink.watched.readFrom .classes key.package key.name outlet).1.toOption.getD "" = prior
  succeeds : (publish sink.watched key texts outlet).1.isOk = true
  written : String.join (publish sink.watched key texts outlet).2.state.texts = text

/-- What is published with success are the lines of the entries that are merged into those of the text
that was read, one after the other. -/
theorem publish_texts {sink : Sink σ} {key : TargetKey} {texts : List String}
    {outlet : Outlet (Watched σ)} (blank : outlet.state.events = [])
    (succeeds : (publish sink.watched key texts outlet).1.isOk = true) :
    (publish sink.watched key texts outlet).2.state.texts =
      (Manifest.merge (Manifest.kept
        ((sink.watched.readFrom .classes key.package key.name outlet).1.toOption.getD ""))
        (texts.flatMap Stencil.lines)).map Manifest.line := by
  obtain ⟨log, existing⟩ := existingEntries_apply sink.watched key outlet
  have unwritten := @Sink.readFrom_texts σ sink .classes key.package key.name outlet
  -- Publishing reads, writes and notes, and all three have succeeded.
  rcases done : publish sink.watched key texts outlet with ⟨failure | artifact, after⟩
  · rw [done] at succeeds
    cases succeeds
  rw [publish_eq, bind_of_ok existing] at done
  obtain ⟨_, between, emitted, noted⟩ := bind_eq_ok.1 done
  cases noted
  -- Nothing was written before the entries, and noting the commit writes nothing more.
  have wrote := Sink.writeTo_texts (emit_eq_ok.1 emitted)
  have none : outlet.state.texts = [] := by rw [Watched.texts, blank]; rfl
  rw [unwritten, none, List.nil_append] at wrote
  exact wrote

/-- What is published over a text is the text, updated with the lines of the others. -/
theorem Publishes.text_eq {sink : Sink σ} {key : TargetKey} {texts : List String}
    {outlet : Outlet (Watched σ)} {prior text : String}
    (publishes : Publishes sink key texts outlet prior text) :
    text = Manifest.update prior (texts.flatMap Stencil.lines) := by
  obtain ⟨blank, found, succeeds, written⟩ := publishes
  rw [publish_texts blank succeeds, found] at written
  exact written.symm

/-- All texts can be written to a scripted sink that does not refuse to be opened. -/
theorem writeTo_scripted (read : Except Failure String) (place : Place) (package name : String)
    (texts : List String) (outlet : Outlet (Watched ScriptedState)) :
    ∃ after, (SinkScript.mk none read).sink.watched.writeTo place package name texts outlet =
      (.ok (), after) := by
  -- Each of them is added to the text of the stream, which can be closed in the end.
  have all : ∀ watched,
      ((SinkScript.mk none read).sink.watched.writeAll .writing texts watched).1 = .ok () := by
    intro watched
    induction texts generalizing watched with
    | nil => rfl
    | cons text rest ih => exact ih _
  obtain ⟨log, wrote⟩ :=
    (SinkScript.mk none read).sink.watched.writeTo_apply place package name texts outlet
  refine ⟨_, wrote.trans (Prod.ext ?_ rfl)⟩
  exact all _

/-- Texts can be published over every text. -/
theorem publishes_scripted (key : TargetKey) (texts : List String) (prior : String) :
    ∃ text, Publishes (SinkScript.mk none (.ok prior)).sink key texts
      ⟨.start ⟨[], ""⟩, [], []⟩ prior text := by
  refine ⟨_, rfl, rfl, ?_, rfl⟩
  obtain ⟨log, existing⟩ := existingEntries_apply (SinkScript.mk none (.ok prior)).sink.watched key
    ⟨.start ⟨[], ""⟩, [], []⟩
  rw [publish_eq, bind_of_ok existing]
  -- A scripted sink takes every text.
  obtain ⟨after, wrote⟩ := writeTo_scripted (.ok prior) .classes key.package key.name _ _
  rw [bind_of_ok (emit_eq_ok.2 wrote)]
  rfl

/-- Some sink reads a text at the place of a manifest, and writes another one there when texts are
published. -/
def Merges (prior : String) (texts : List String) (text : String) : Prop :=
  ∃ (σ : Type) (sink : Sink σ) (key : TargetKey) (outlet : Outlet (Watched σ)),
    Publishes sink key texts outlet prior text

/-- What is written depends on no sink. -/
theorem merges_iff {prior text : String} {texts : List String} :
    Merges prior texts text ↔ text = Manifest.update prior (texts.flatMap Stencil.lines) := by
  constructor
  · rintro ⟨σ, sink, key, outlet, publishes⟩
    exact publishes.text_eq
  -- One sink is enough, and all of them write the same.
  · rintro rfl
    obtain ⟨text, publishes⟩ := publishes_scripted ⟨"", ""⟩ texts prior
    have same := publishes.text_eq
    exact ⟨_, _, _, _, same ▸ publishes⟩

end ServiceTarget

/-- A service that a pass commits publishes the texts that were contributed to its interface. -/
theorem Pass.completeService_publish {σ μ : Type} (setup : Setup σ) {moves : List (Move μ)}
    {pass : Pass σ μ} (collected : Pass.Collected moves pass) (interface : String) :
    let key := Pass.serviceKey interface
    let published :=
      ServiceTarget.publish setup.sink key (Move.contributions interface moves) pass.outlet
    (Pass.completeService setup key pass).1 = published.1.map (fun _ => ()) ∧
      (Pass.completeService setup key pass).2.outlet = published.2 := by
  intro key published
  -- The service holds the lines of these texts, and is not committed yet.
  have held : published = (do
      let target ← (pass.serviceAt key).complete setup.sink key
      return target.artifact : Attempt (Outlet σ) (Option Artifact)) pass.outlet := by
    rw [collected.held]
    exact congrFun (ServiceTarget.publish_eq_complete _ _ _) _
  rw [held, Pass.completeService_apply, Attempt.bind_apply]
  rcases (pass.serviceAt key).complete setup.sink key pass.outlet with ⟨failure | target, outlet⟩
  · exact ⟨rfl, rfl⟩
  · exact ⟨rfl, rfl⟩

end Stencil
