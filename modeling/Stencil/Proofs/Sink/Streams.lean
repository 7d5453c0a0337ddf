import Stencil.Proofs.Attempt
import Stencil.Sink

/-! Laws of all sinks: how opening, using and closing a stream make up one operation. -/

namespace Stencil

namespace Outlet

variable {σ α : Type}

@[simp] theorem note_apply (entry : LogRecord) (outlet : Outlet σ) :
    note entry outlet = (.ok (), { outlet with log := outlet.log ++ [entry] }) := rfl

@[simp] theorem onSink_apply (attempt : Attempt σ α) (outlet : Outlet σ) :
    onSink attempt outlet =
      ((attempt outlet.state).1, { outlet with state := (attempt outlet.state).2 }) := rfl

end Outlet

namespace Sink

open Attempt

variable {σ α : Type}

/-- Writing several texts writes the first, and then the others. -/
theorem writeAll_cons (sink : Sink σ) (stream : sink.Stream) (text : String)
    (rest : List String) :
    sink.writeAll stream (text :: rest) = (do
      sink.write stream text
      sink.writeAll stream rest) := by
  rw [writeAll]

/-- A stream is closed after its use, and the result is that of the use unless closing fails. -/
theorem during_apply (sink : Sink σ) (stream : sink.Stream) (body : Attempt σ α) (state : σ) :
    sink.during stream body state =
      match sink.close stream (body state).2 with
      | (.ok _, after) => ((body state).1, after)
      | (.error failure, after) => (.error failure, after) := by
  -- The outcome of the use is kept as a value until the stream is closed.
  unfold during
  simp only [bind_apply, outcome_apply, ofExcept_apply]
  rcases sink.close stream (body state).2 with ⟨failure | _, after⟩ <;> rfl

/-- Opening a destination changes the sink, and may add to the log. -/
theorem openLogged_apply (sink : Sink σ) (place : Place) (package name : String)
    (outlet : Outlet σ) :
    ∃ log, sink.openLogged place package name outlet =
      ((sink.openWrite place package name outlet.state).1,
        ⟨(sink.openWrite place package name outlet.state).2, outlet.diagnostics, log⟩) := by
  -- A sink that has nothing to say about a stream adds no record.
  unfold openLogged
  simp only [bind_apply, Outlet.onSink_apply]
  rcases sink.openWrite place package name outlet.state with ⟨failure | stream, opened⟩
  · exact ⟨outlet.log, rfl⟩
  · cases note : sink.opened stream with
    | none => exact ⟨outlet.log, by simp only [note]; rfl⟩
    | some entry => exact ⟨outlet.log ++ [entry], by simp only [note]; rfl⟩

/-- Writing to a destination opens it and, if that succeeds, writes all texts before it is closed. -/
theorem writeTo_apply (sink : Sink σ) (place : Place) (package name : String)
    (texts : List String) (outlet : Outlet σ) :
    ∃ log, sink.writeTo place package name texts outlet =
      match sink.openWrite place package name outlet.state with
      | (.error failure, after) => (.error failure, ⟨after, outlet.diagnostics, log⟩)
      | (.ok stream, opened) =>
        ((sink.during stream (sink.writeAll stream texts) opened).1,
          ⟨(sink.during stream (sink.writeAll stream texts) opened).2, outlet.diagnostics, log⟩) := by
  -- A destination that cannot be opened has no stream to close.
  obtain ⟨log, result⟩ := openLogged_apply sink place package name outlet
  refine ⟨log, ?_⟩
  unfold writeTo
  rw [bind_apply, result]
  rcases sink.openWrite place package name outlet.state with ⟨failure | stream, opened⟩ <;> rfl

/-- Reading a destination leaves diagnostics and log alone. -/
theorem readFrom_apply (sink : Sink σ) (place : Place) (package name : String)
    (outlet : Outlet σ) :
    sink.readFrom place package name outlet =
      match sink.openRead place package name outlet.state with
      | (.error failure, after) => (.error failure, { outlet with state := after })
      | (.ok stream, opened) =>
        ((sink.during stream (sink.read stream) opened).1,
          { outlet with state := (sink.during stream (sink.read stream) opened).2 }) := by
  -- No record is made of what is opened for reading.
  unfold readFrom
  simp only [Outlet.onSink_apply, bind_apply]
  rcases sink.openRead place package name outlet.state with ⟨failure | stream, opened⟩ <;> rfl

/-- Writing to a destination reports nothing. -/
theorem writeTo_diagnostics (sink : Sink σ) (place : Place) (package name : String)
    (texts : List String) (outlet : Outlet σ) :
    (sink.writeTo place package name texts outlet).2.diagnostics = outlet.diagnostics := by
  -- Only opening adds to the log, and nothing adds to the diagnostics.
  obtain ⟨log, result⟩ := writeTo_apply sink place package name texts outlet
  rw [result]
  rcases sink.openWrite place package name outlet.state with ⟨failure | stream, opened⟩ <;> rfl

/-- Reading a destination reports nothing. -/
theorem readFrom_diagnostics (sink : Sink σ) (place : Place) (package name : String)
    (outlet : Outlet σ) :
    (sink.readFrom place package name outlet).2.diagnostics = outlet.diagnostics := by
  -- Reading goes on from what the outlet reported before.
  rw [readFrom_apply]
  rcases sink.openRead place package name outlet.state with ⟨failure | stream, opened⟩ <;> rfl

end Sink

end Stencil
