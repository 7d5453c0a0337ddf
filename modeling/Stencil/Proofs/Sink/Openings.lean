import Stencil.Proofs.Sink.Watched
import Stencil.Target.Service
import Stencil.Target.Source

/-! Openings: the destinations that a watched sink was asked to open, in order, and which of them a
target asks for when it is committed. -/

namespace Stencil

open Attempt

/-- An attempt adds the given items at the end of a list that can be seen in its state, however it
ends. -/
def Lengthens {τ ε α : Type} (view : τ → List ε) (added : List ε) (attempt : Attempt τ α) : Prop :=
  ∀ state, view (attempt state).2 = view state ++ added

namespace Lengthens

variable {τ ε α β : Type} {view : τ → List ε} {added more : List ε} {attempt : Attempt τ α}

/-- What takes over a result adds nothing. -/
theorem ofExcept (view : τ → List ε) (result : Except Failure α) :
    Lengthens view [] (Attempt.ofExcept result : Attempt τ α) :=
  fun _ => (List.append_nil _).symm

/-- A sequence adds what its first part adds, if its second part adds nothing. -/
theorem bind (here : Lengthens view added attempt) {next : α → Attempt τ β}
    (there : ∀ value, Lengthens view [] (next value)) : Lengthens view added (attempt >>= next) := by
  -- Whether there is a second part makes no difference.
  intro state
  have begun := here state
  rw [bind_apply]
  generalize attempt state = answer at begun ⊢
  obtain ⟨failure | value, after⟩ := answer
  · exact begun
  · exact (there value after).trans (by rw [begun, List.append_nil])

/-- A sequence whose first part cannot fail adds what both of its parts add. -/
theorem bind_of_total (here : Lengthens view added attempt)
    (total : ∀ state, (attempt state).1.isOk = true) {next : α → Attempt τ β}
    (there : ∀ value, Lengthens view more (next value)) :
    Lengthens view (added ++ more) (attempt >>= next) := by
  -- There always is a second part.
  intro state
  have begun := here state
  have succeeds := total state
  rw [bind_apply]
  generalize attempt state = answer at begun succeeds ⊢
  obtain ⟨failure | value, after⟩ := answer
  · cases succeeds
  · exact (there value after).trans (by rw [begun, List.append_assoc])

/-- Turning failures into values adds nothing more. -/
theorem outcome (here : Lengthens view added attempt) : Lengthens view added attempt.outcome := here

/-- An attempt on a part of a state adds what it adds to the part. -/
theorem onPart {σ : Type} {inner : σ → List ε} {attempt : Attempt σ α}
    (here : Lengthens inner added attempt) (part : τ → σ) (replace : σ → τ → τ)
    (before : ∀ whole, view whole = inner (part whole))
    (after : ∀ value whole, view (replace value whole) = inner value) :
    Lengthens view added (attempt.onPart part replace) := by
  intro whole
  rw [before whole]
  exact (after _ whole).trans (here (part whole))

end Lengthens

namespace SinkEvent

/-- Tests for the calls that open a destination. -/
def opens : SinkEvent → Bool
  | openWrite _ _ _ | openRead _ _ _ => true
  | write _ | close | read => false

/-- A call opens a destination at a place, if it opens one at all. -/
def Only (place : Place) : SinkEvent → Prop
  | openWrite opened _ _ | openRead opened _ _ => opened = place
  | write _ | close | read => True

end SinkEvent

section Sinks

variable {σ α : Type}

/-- The openings that a watched sink was asked for, in order. -/
def Watched.openings (watched : Watched σ) : List SinkEvent :=
  watched.events.filter SinkEvent.opens

/-- The openings that the sink of a watched outlet was asked for, in order. -/
def Outlet.openings (outlet : Outlet (Watched σ)) : List SinkEvent := outlet.state.openings

/-- A call adds itself to the openings if it opens a destination. -/
theorem Watched.receive_lengthens (event : SinkEvent) (attempt : Attempt σ α) :
    Lengthens Watched.openings ([event].filter SinkEvent.opens) (receive event attempt) :=
  fun watched => List.filter_append watched.events [event]

/-- What a sink does is what its outlet shows. -/
theorem Outlet.onSink_lengthens {added : List SinkEvent} {attempt : Attempt (Watched σ) α}
    (here : Lengthens Watched.openings added attempt) :
    Lengthens Outlet.openings added (Outlet.onSink attempt) :=
  here.onPart _ _ (fun _ => rfl) fun _ _ => rfl

/-- A record in the log opens nothing. -/
theorem Outlet.note_lengthens (entry : LogRecord) :
    Lengthens Outlet.openings [] (Outlet.note entry : Attempt (Outlet (Watched σ)) Unit) :=
  fun _ => (List.append_nil _).symm

namespace Sink

variable (sink : Sink σ)

/-- Using a stream opens nothing, if its use does not. -/
theorem during_lengthens (stream : sink.Stream) {body : Attempt (Watched σ) α}
    (inner : Lengthens Watched.openings [] body) :
    Lengthens Watched.openings [] (sink.watched.during stream body) :=
  inner.outcome.bind fun result => (Watched.receive_lengthens .close (sink.close stream)).bind
    fun _ => .ofExcept _ result

/-- Writing texts to a stream opens nothing. -/
theorem writeAll_lengthens (stream : sink.Stream) (texts : List String) :
    Lengthens Watched.openings [] (sink.watched.writeAll stream texts) := by
  induction texts with
  | nil => exact .ofExcept _ (.ok ())
  -- A text is written to a stream that is open already.
  | cons text rest ih =>
    exact (Watched.receive_lengthens (.write text) (sink.write stream text)).bind fun _ => ih

/-- Writing to a destination opens it, and nothing else. -/
theorem writeTo_lengthens (place : Place) (package name : String) (texts : List String) :
    Lengthens Outlet.openings [.openWrite place package name]
      (sink.watched.writeTo place package name texts) := by
  have opens : Lengthens Outlet.openings [.openWrite place package name]
      (sink.watched.openLogged place package name) := by
    refine (Outlet.onSink_lengthens (Watched.receive_lengthens (.openWrite place package name)
      (sink.openWrite place package name))).bind fun stream => ?_
    -- What the sink says of the stream is noted.
    cases opened : sink.opened stream with
    | none =>
      simp only [show sink.watched.opened stream = none from opened]
      exact .ofExcept _ (.ok stream)
    | some entry =>
      simp only [show sink.watched.opened stream = some entry from opened]
      exact (Outlet.note_lengthens entry).bind fun _ => .ofExcept _ (.ok stream)
  exact opens.bind fun stream => Outlet.onSink_lengthens
    (sink.during_lengthens stream (sink.writeAll_lengthens stream texts))

/-- Reading from a destination opens it, and nothing else. -/
theorem readFrom_lengthens (place : Place) (package name : String) :
    Lengthens Outlet.openings [.openRead place package name]
      (sink.watched.readFrom place package name) := by
  have opens := Watched.receive_lengthens (.openRead place package name)
    (sink.openRead place package name)
  -- The stream that is answered is read and closed.
  have reads : ∀ stream, Lengthens Watched.openings [] (sink.watched.during stream
      (sink.watched.read stream)) := fun stream => sink.during_lengthens stream
        (Watched.receive_lengthens .read (sink.read stream))
  exact Outlet.onSink_lengthens (opens.bind reads)

end Sink

namespace ServiceTarget

/-- The destinations that a service asks for: its manifest is read, and then written. -/
def openings (key : TargetKey) : List SinkEvent :=
  [.openRead .classes key.package key.name, .openWrite .classes key.package key.name]

variable (sink : Sink σ) (key : TargetKey)

/-- Reading the entries of an earlier manifest opens it. -/
theorem existingEntries_lengthens :
    Lengthens Outlet.openings [.openRead .classes key.package key.name]
      (existingEntries sink.watched key) := by
  refine (sink.readFrom_lengthens .classes key.package key.name).outcome.bind fun answer => ?_
  -- What cannot be read is noted, which opens nothing.
  cases answer with
  | ok existing => exact .ofExcept _ (.ok (Manifest.kept existing))
  | error failure => exact (Outlet.note_lengthens _).bind fun _ => .ofExcept _ (.ok [])

/-- An earlier manifest that cannot be read counts as one without entries. -/
theorem existingEntries_ok (outlet : Outlet σ) : (existingEntries sink key outlet).1.isOk = true := by
  -- Whatever reading answers, there is a list.
  unfold existingEntries
  simp only [bind_apply, outcome_apply]
  generalize (sink.readFrom .classes key.package key.name outlet).1 = answer
  cases answer <;> rfl

/-- Writing the entries of a manifest opens it. -/
theorem emit_lengthens (entries : List String) :
    Lengthens Outlet.openings [.openWrite .classes key.package key.name]
      (emit sink.watched key entries) := by
  refine (sink.writeTo_lengthens .classes key.package key.name
    (entries.map Manifest.line)).outcome.bind fun answer => ?_
  -- A failure is named anew, which opens nothing.
  cases answer with
  | ok _ => exact .ofExcept _ (.ok ())
  | error failure =>
    simp only
    split
    · exact .ofExcept _ (.error _)
    · exact .ofExcept _ (.error _)

/-- Committing a service that is not committed opens its manifest for reading and for writing, and
nothing else. -/
theorem complete_lengthens {target : ServiceTarget} (uncommitted : target.artifact = none) :
    Lengthens Outlet.openings (openings key) (target.complete sink.watched key) := by
  have completed : target.completed = false := by rw [completed, uncommitted]; rfl
  unfold complete
  simp only [completed, Bool.false_eq_true, if_false]
  -- What cannot be read does not keep it from being written.
  refine (existingEntries_lengthens sink key).bind_of_total (existingEntries_ok _ key)
    fun earlier => ?_
  refine (emit_lengthens sink key _).bind fun _ => ?_
  exact (Outlet.note_lengthens _).bind fun _ => .ofExcept _ (.ok _)

end ServiceTarget

end Sinks

end Stencil
