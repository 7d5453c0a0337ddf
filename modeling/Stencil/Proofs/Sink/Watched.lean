import Stencil.Proofs.Mirror
import Stencil.Proofs.Sink.Streams

/-! Watched sinks: what a sink is called for, in order. A watched sink does what the sink does, and
lists each call, whether it succeeds or not. -/

namespace Stencil

/-- A call that a sink receives. -/
inductive SinkEvent where
  | openWrite (place : Place) (package name : String)
  | write (text : String)
  | close
  | openRead (place : Place) (package name : String)
  | read
deriving DecidableEq, Repr

/-- The state of a sink, with the calls that the sink has received. -/
structure Watched (σ : Type) where
  state : σ
  events : List SinkEvent

namespace Watched

variable {σ α : Type}

/-- The state of a sink that has received no call yet. -/
def start (state : σ) : Watched σ := ⟨state, []⟩

/-- Carries out a call on the state of the sink, and lists it. -/
def receive (event : SinkEvent) (attempt : Attempt σ α) : Attempt (Watched σ) α := fun watched =>
  match attempt watched.state with
  | (result, after) => (result, ⟨after, watched.events ++ [event]⟩)

/-- Listing a call changes nothing about it. -/
theorem receive_mirrors (event : SinkEvent) (attempt : Attempt σ α) :
    Mirrors (fun state watched => watched.state = state) attempt (receive event attempt) := by
  -- The call is carried out on the state that is watched.
  refine Mirrors.of_agree fun state watched same => ?_
  subst same
  exact ⟨rfl, rfl⟩

end Watched

namespace Sink

variable {σ α : Type}

/-- The same sink, with a list of the calls that it receives. -/
def watched (sink : Sink σ) : Sink (Watched σ) where
  Stream := sink.Stream
  openWrite place package name :=
    Watched.receive (.openWrite place package name) (sink.openWrite place package name)
  write stream text := Watched.receive (.write text) (sink.write stream text)
  close stream := Watched.receive .close (sink.close stream)
  openRead place package name :=
    Watched.receive (.openRead place package name) (sink.openRead place package name)
  read stream := Watched.receive .read (sink.read stream)
  opened := sink.opened

end Sink

namespace Outlet

variable {σ α : Type}

/-- The outlet of a watched sink, without the list of its calls. -/
def unwatched (outlet : Outlet (Watched σ)) : Outlet σ :=
  ⟨outlet.state.state, outlet.diagnostics, outlet.log⟩

/-- A watched outlet belongs to another one if it is that one with a list of calls. -/
def Watches (outlet : Outlet σ) (watched : Outlet (Watched σ)) : Prop := watched.unwatched = outlet

/-- What a watched outlet watches has the same state, diagnostics and log. -/
theorem Watches.parts {outlet : Outlet σ} {watched : Outlet (Watched σ)}
    (watches : Watches outlet watched) : watched.state.state = outlet.state ∧
      watched.diagnostics = outlet.diagnostics ∧ watched.log = outlet.log := by
  cases watches
  exact ⟨rfl, rfl, rfl⟩

/-- A call of the sink is mirrored by the call that is listed. -/
theorem onSink_mirrors {leader : Attempt σ α} {follower : Attempt (Watched σ) α}
    (mirrors : Mirrors (fun state watched => watched.state = state) leader follower) :
    Mirrors Watches (onSink leader) (onSink follower) := by
  -- Only the state of the outlet is replaced.
  refine mirrors.onPart (fun _ _ watches => watches.parts.1) ?_
  intro outlet watched watches state inner same
  obtain ⟨_, diagnostics, log⟩ := watches.parts
  show Outlet.mk inner.state watched.diagnostics watched.log = _
  rw [same, diagnostics, log]

/-- A record is added to the logs of both outlets. -/
theorem note_mirrors (entry : LogRecord) :
    Mirrors Watches (note entry : Attempt (Outlet σ) Unit) (note entry) := by
  refine Mirrors.change fun outlet watched watches => ?_
  cases watches
  rfl

/-- A diagnostic is added to both outlets. -/
theorem report_mirrors (severity : Severity) (message : String) :
    Mirrors Watches (report severity message : Attempt (Outlet σ) Unit)
      (report severity message) := by
  refine Mirrors.change fun outlet watched watches => ?_
  cases watches
  rfl

end Outlet

namespace Sink

open Outlet

variable {σ α : Type} (sink : Sink σ)

/-- A stream is closed after its use on the watched sink as well. -/
theorem during_mirrors (stream : sink.Stream) {body : Attempt σ α}
    {body' : Attempt (Watched σ) α}
    (mirrors : Mirrors (fun state watched => watched.state = state) body body') :
    Mirrors (fun state watched => watched.state = state) (sink.during stream body)
      (sink.watched.during stream body') :=
  mirrors.outcome.bind fun result =>
    (Watched.receive_mirrors .close (sink.close stream)).bind fun _ => .same result

/-- All texts are written to the watched sink as well, up to the first failure. -/
theorem writeAll_mirrors (stream : sink.Stream) (texts : List String) :
    Mirrors (fun state watched => watched.state = state) (sink.writeAll stream texts)
      (sink.watched.writeAll stream texts) := by
  induction texts with
  | nil => exact .same (.ok ())
  | cons text rest ih =>
    -- Both sides write the first text, and then the others.
    exact (Watched.receive_mirrors (.write text) (sink.write stream text)).bind fun _ => ih

/-- Writing to a destination of the watched sink is writing to that of the sink. -/
theorem writeTo_mirrors (place : Place) (package name : String) (texts : List String) :
    Mirrors Watches (sink.writeTo place package name texts)
      (sink.watched.writeTo place package name texts) := by
  -- The destination is opened, what the sink says of it is noted, and then the texts follow.
  have opens : Mirrors Watches (sink.openLogged place package name)
      (sink.watched.openLogged place package name) := by
    refine (onSink_mirrors (Watched.receive_mirrors (.openWrite place package name)
      (sink.openWrite place package name))).bind fun stream => ?_
    cases opened : sink.opened stream with
    | none =>
      simp only [show sink.watched.opened stream = none from opened]
      exact .same (.ok stream)
    | some entry =>
      simp only [show sink.watched.opened stream = some entry from opened]
      exact (note_mirrors entry).bind fun _ => .same (.ok stream)
  exact opens.bind fun stream => onSink_mirrors
    (sink.during_mirrors stream (sink.writeAll_mirrors stream texts))

/-- Reading from a destination of the watched sink is reading from that of the sink. -/
theorem readFrom_mirrors (place : Place) (package name : String) :
    Mirrors Watches (sink.readFrom place package name)
      (sink.watched.readFrom place package name) := by
  -- Opening, reading and closing are received by both sinks.
  refine onSink_mirrors ?_
  refine (Watched.receive_mirrors (.openRead place package name)
    (sink.openRead place package name)).bind fun stream => ?_
  exact sink.during_mirrors stream (Watched.receive_mirrors .read (sink.read stream))

end Sink

end Stencil
