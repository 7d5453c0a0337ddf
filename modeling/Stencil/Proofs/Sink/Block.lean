import Stencil.Proofs.Sink.Watched

/-! Blocks: a destination is opened, its stream is used once, and the stream is closed in any case. Each
of the three calls may fail, and together they decide what the block comes to. -/

namespace Stencil

/-- A call that is listed answers as the call does, and stands behind those listed before. -/
theorem Watched.receive_eq {σ α : Type} {event : SinkEvent} {attempt : Attempt σ α}
    {watched after : Watched σ} {result : Except Failure α}
    (received : receive event attempt watched = (result, after)) :
    attempt watched.state = (result, after.state) ∧ after.events = watched.events ++ [event] := by
  -- The answer and the state are those of the call.
  unfold receive at received
  rcases called : attempt watched.state with ⟨answer, state⟩
  rw [called] at received
  cases received
  exact ⟨rfl, rfl⟩

namespace Sink

open Attempt

variable {σ α : Type}

/-- What a block can come to, with the calls that it consists of: an opening, a use and a closing,
each of which may fail. -/
inductive Block (sink : Sink σ) (opens : Attempt σ sink.Stream)
    (uses : sink.Stream → Attempt σ α) (opening use : SinkEvent) (state : σ) :
    Except Failure α → σ → List SinkEvent → Prop where
  /-- A destination that cannot be opened is not used, and there is nothing to close. -/
  | unopened {failure : Failure} {after : σ} (opened : opens state = (.error failure, after)) :
      Block sink opens uses opening use state (.error failure) after [opening]
  /-- A use that fails is followed by the closing. -/
  | unused {stream : sink.Stream} {failure : Failure} {between middle after : σ}
      (opened : opens state = (.ok stream, between))
      (used : uses stream between = (.error failure, middle))
      (closed : sink.close stream middle = (.ok (), after)) :
      Block sink opens uses opening use state (.error failure) after [opening, use, .close]
  /-- A closing that fails hides what the use answered, be it a value or a failure. -/
  | unclosed {stream : sink.Stream} {answer : Except Failure α} {failure : Failure}
      {between middle after : σ} (opened : opens state = (.ok stream, between))
      (used : uses stream between = (answer, middle))
      (closed : sink.close stream middle = (.error failure, after)) :
      Block sink opens uses opening use state (.error failure) after [opening, use, .close]
  /-- All three calls succeed. -/
  | finished {stream : sink.Stream} {value : α} {between middle after : σ}
      (opened : opens state = (.ok stream, between))
      (used : uses stream between = (.ok value, middle))
      (closed : sink.close stream middle = (.ok (), after)) :
      Block sink opens uses opening use state (.ok value) after [opening, use, .close]

/-- The block that writes one text to a destination. -/
abbrev WriteBlock (sink : Sink σ) (place : Place) (package name text : String) (state : σ)
    (result : Except Failure Unit) (after : σ) (calls : List SinkEvent) : Prop :=
  Block sink (sink.openWrite place package name) (fun stream => sink.write stream text)
    (.openWrite place package name) (.write text) state result after calls

/-- The block that reads what stands at a destination. -/
abbrev ReadBlock (sink : Sink σ) (place : Place) (package name : String) (state : σ)
    (result : Except Failure String) (after : σ) (calls : List SinkEvent) : Prop :=
  Block sink (sink.openRead place package name) sink.read (.openRead place package name) .read
    state result after calls

section Blocks

variable {sink : Sink σ} {opens : Attempt σ sink.Stream} {uses : sink.Stream → Attempt σ α}
  {opening use : SinkEvent}

/-- Opening a stream and using it during its life comes to a block. -/
theorem exists_block (state : σ) : ∃ calls,
    Block sink opens uses opening use state
      ((opens >>= fun stream => sink.during stream (uses stream)) state).1
      ((opens >>= fun stream => sink.during stream (uses stream)) state).2 calls := by
  rw [bind_apply]
  rcases opened : opens state with ⟨failure | stream, between⟩
  · exact ⟨_, .unopened opened⟩
  -- Whatever the use answers, the closing comes next.
  · simp only [during_apply]
    rcases used : uses stream between with ⟨answer, middle⟩
    rcases closed : sink.close stream middle with ⟨failure | _, after⟩
    · exact ⟨_, .unclosed opened used closed⟩
    · cases answer with
      | error failure => exact ⟨_, .unused opened used closed⟩
      | ok value => exact ⟨_, .finished opened used closed⟩

/-- What a block came to is what opening the stream and using it during its life comes to. -/
theorem Block.apply_eq {state after : σ} {result : Except Failure α} {calls : List SinkEvent}
    (block : Block sink opens uses opening use state result after calls) :
    (opens >>= fun stream => sink.during stream (uses stream)) state = (result, after) := by
  rw [bind_apply]
  -- A stream that was opened is closed, whether or not it could be used.
  cases block with
  | unopened opened => rw [opened]
  | unused opened used closed | unclosed opened used closed | finished opened used closed =>
    simp only [opened, during_apply, used, closed]

/-- A block comes to one thing only. -/
theorem Block.unique {state after other : σ} {result answer : Except Failure α}
    {calls more : List SinkEvent}
    (first : Block sink opens uses opening use state result after calls)
    (second : Block sink opens uses opening use state answer other more) :
    answer = result ∧ other = after := by
  -- Both are what the same attempt comes to.
  have same := second.apply_eq.symm.trans first.apply_eq
  exact ⟨congrArg Prod.fst same, congrArg Prod.snd same⟩

/-- A block on a watched sink is one on the sink itself, and its calls are those that were listed. -/
theorem Block.unwatched {watched after : Watched σ} {result : Except Failure α}
    {calls : List SinkEvent}
    (block : @Block (Watched σ) α sink.watched (Watched.receive opening opens)
      (fun stream => Watched.receive use (uses stream)) opening use watched result after calls) :
    Block sink opens uses opening use watched.state result after.state calls ∧
      after.events = watched.events ++ calls := by
  -- Each call that was carried out is listed behind the ones before it.
  cases block with
  | unopened opened =>
    obtain ⟨opened, first⟩ := Watched.receive_eq opened
    exact ⟨.unopened opened, first⟩
  | unused opened used closed =>
    obtain ⟨opened, first⟩ := Watched.receive_eq opened
    obtain ⟨used, second⟩ := Watched.receive_eq used
    obtain ⟨closed, third⟩ := Watched.receive_eq closed
    exact ⟨.unused opened used closed, by simp [third, second, first]⟩
  | unclosed opened used closed =>
    obtain ⟨opened, first⟩ := Watched.receive_eq opened
    obtain ⟨used, second⟩ := Watched.receive_eq used
    obtain ⟨closed, third⟩ := Watched.receive_eq closed
    exact ⟨.unclosed opened used closed, by simp [third, second, first]⟩
  | finished opened used closed =>
    obtain ⟨opened, first⟩ := Watched.receive_eq opened
    obtain ⟨used, second⟩ := Watched.receive_eq used
    obtain ⟨closed, third⟩ := Watched.receive_eq closed
    exact ⟨.finished opened used closed, by simp [third, second, first]⟩

end Blocks

variable (sink : Sink σ)

/-- Writing one text to a destination comes to a block, and reports nothing. -/
theorem writeTo_block (place : Place) (package name text : String) (outlet : Outlet σ) :
    ∃ result state log calls,
      sink.writeTo place package name [text] outlet = (result, ⟨state, outlet.diagnostics, log⟩) ∧
        sink.WriteBlock place package name text outlet.state result state calls := by
  -- Writing one text is writing all texts of a list of one.
  have alone : ∀ stream, sink.writeAll stream [text] = sink.write stream text :=
    fun stream => bind_pure (sink.write stream text)
  obtain ⟨calls, block⟩ := @exists_block σ Unit sink (sink.openWrite place package name)
    (fun stream => sink.write stream text) (.openWrite place package name) (.write text)
    outlet.state
  obtain ⟨log, wrote⟩ := writeTo_apply sink place package name [text] outlet
  simp only [alone] at wrote
  rw [bind_apply] at block
  rw [wrote]
  -- Noting the stream is about the log, so the block is the same.
  rcases opened : sink.openWrite place package name outlet.state with ⟨failure | stream, between⟩
  · rw [opened] at block
    exact ⟨_, _, _, _, rfl, block⟩
  · rw [opened] at block
    exact ⟨_, _, _, _, rfl, block⟩

/-- Reading a destination comes to a block, and changes nothing but the sink. -/
theorem readFrom_block (place : Place) (package name : String) (outlet : Outlet σ) :
    ∃ result state calls,
      sink.readFrom place package name outlet = (result, { outlet with state }) ∧
        sink.ReadBlock place package name outlet.state result state calls := by
  -- The sink is all that an outlet hands on.
  obtain ⟨calls, block⟩ := @exists_block σ String sink (sink.openRead place package name)
    sink.read (.openRead place package name) .read outlet.state
  exact ⟨_, _, calls, rfl, block⟩

end Sink

end Stencil
