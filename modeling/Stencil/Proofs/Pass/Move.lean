import Stencil.Proofs.Pass.Finalize

/-! Moves: the operations on a pass that a script performs one after the other, with the texts that
its bodies rendered to. -/

namespace Stencil

/-- One operation on a pass. A call that writes a source first requests its key, and then settles
it with the text of its body, or drops it for the failure of its body; services are alike. -/
inductive Move (μ : Type) where
  | requestSource (key : TargetKey)
  | settleSource (key : TargetKey) (text : String)
  | dropSource (key : TargetKey) (failure : Failure)
  | requestService (interface : String)
  | contribute (interface text : String)
  | dropService (interface : String) (failure : Failure)
  | error (message : String)
  | system (message : String)
  | finalize
  | remember (memory : μ)
deriving DecidableEq

/-- The number of errors that were reported. -/
def Pass.errors {σ μ : Type} (pass : Pass σ μ) : Nat :=
  countSeverity .error pass.outlet.diagnostics

/-- The key of the service file of an interface. -/
def Pass.serviceKey (interface : String) : TargetKey := ⟨"", serviceRoot ++ interface⟩

namespace Move

open Attempt

variable {σ μ : Type}

/-- What a move does to a pass. -/
def run (setup : Setup σ) : Move μ → Attempt (Pass σ μ) Unit
  | .requestSource key => do
    let _ ← Pass.requestSource (some key.package) (some key.name)
  | .settleSource key text => Pass.settleSource setup key text
  | .dropSource _ failure => .stop failure
  | .requestService interface => do
    let _ ← Pass.requestService (some "") (some (Pass.serviceRoot ++ interface))
  | .contribute interface text => Pass.appendService (Pass.serviceKey interface) text
  | .dropService _ failure => .stop failure
  | .error message => do
    let _ ← Pass.error message
  | .system message => do
    let _ ← Pass.system message
  | .finalize => do
    let _ ← Pass.finalize setup
  | .remember memory => .change fun pass => { pass with memory }

/-- The pass after a row of moves, each of which goes on from what the one before it left. -/
def play (setup : Setup σ) : List (Move μ) → Pass σ μ → Pass σ μ
  | [], pass => pass
  | move :: rest, pass => play setup rest (move.run setup pass).2

/-- Every move of a row has a property, seen from the pass at its own start. -/
def Along (setup : Setup σ) (holds : Pass σ μ → Move μ → Prop) : List (Move μ) → Pass σ μ → Prop
  | [], _ => True
  | move :: rest, pass => holds pass move ∧ Along setup holds rest (move.run setup pass).2

/-- A property that can be tested move by move can be tested along a row. -/
instance decidableAlong (setup : Setup σ) (holds : Pass σ μ → Move μ → Prop)
    [∀ pass move, Decidable (holds pass move)] :
    (moves : List (Move μ)) → (pass : Pass σ μ) → Decidable (Along setup holds moves pass)
  | [], _ => .isTrue trivial
  | move :: rest, pass =>
    have := decidableAlong setup holds rest (move.run setup pass).2
    inferInstanceAs (Decidable (_ ∧ _))

/-- No move of a row fails. -/
def Smooth (setup : Setup σ) : List (Move μ) → Pass σ μ → Prop :=
  Along setup fun pass move => (move.run setup pass).1.isOk = true

instance (setup : Setup σ) (moves : List (Move μ)) (pass : Pass σ μ) :
    Decidable (Smooth setup moves pass) :=
  inferInstanceAs (Decidable (Along _ _ _ _))

/-- One row after another leads on from where the first one ends. -/
theorem play_append (setup : Setup σ) (moves more : List (Move μ)) (pass : Pass σ μ) :
    play setup (moves ++ more) pass = play setup more (play setup moves pass) := by
  -- The first row is used up move by move.
  induction moves generalizing pass with
  | nil => rfl
  | cons move rest ih => exact ih _

/-- A property along two rows is a property along the first, and then along the second. -/
theorem along_append {setup : Setup σ} {holds : Pass σ μ → Move μ → Prop}
    {moves more : List (Move μ)} {pass : Pass σ μ} :
    Along setup holds (moves ++ more) pass ↔
      Along setup holds moves pass ∧ Along setup holds more (play setup moves pass) := by
  -- What is left of the first row always starts where its moves have led.
  induction moves generalizing pass with
  | nil => simp [Along, play]
  | cons move rest ih => simp only [List.cons_append, Along, play, ih, and_assoc]

/-- What holds at the start, and is kept by every move of a row, holds at the end; it may speak of
the moves so far. -/
theorem play_invariant {setup : Setup σ} {holds : Pass σ μ → Move μ → Prop}
    {kept : List (Move μ) → Pass σ μ → Prop}
    (step : ∀ earlier pass move, kept earlier pass → holds pass move →
      kept (earlier ++ [move]) (move.run setup pass).2)
    {earlier moves : List (Move μ)} {pass : Pass σ μ} (start : kept earlier pass)
    (along : Along setup holds moves pass) : kept (earlier ++ moves) (play setup moves pass) := by
  -- Each move goes from the front of the row to the end of the moves so far.
  induction moves generalizing earlier pass with
  | nil => simpa [play] using start
  | cons move rest ih =>
    have next := ih (step earlier pass move start along.1) along.2
    rw [List.append_assoc] at next
    exact next

/-- Moves that fit where they stand in a row, and then succeed and keep what holds, go smoothly. -/
theorem play_progress {setup : Setup σ} {fits : List (Move μ) → Move μ → Prop}
    {kept : List (Move μ) → Pass σ μ → Prop}
    (step : ∀ earlier pass move, kept earlier pass → fits earlier move →
      (move.run setup pass).1 = .ok () ∧ kept (earlier ++ [move]) (move.run setup pass).2)
    {earlier moves : List (Move μ)} {pass : Pass σ μ} (start : kept earlier pass)
    (all : ∀ front move back, moves = front ++ move :: back → fits (earlier ++ front) move) :
    Smooth setup moves pass ∧ kept (earlier ++ moves) (play setup moves pass) := by
  -- What holds before a move is what lets it succeed.
  induction moves generalizing earlier pass with
  | nil => exact ⟨trivial, by simpa [play] using start⟩
  | cons move rest ih =>
    obtain ⟨succeeds, next⟩ := step earlier pass move start (by simpa using all [] move rest rfl)
    obtain ⟨smooth, last⟩ := ih next fun front other back split => by
      simpa using all (move :: front) other back (by simp [split])
    refine ⟨⟨by simp [succeeds, Except.isOk, Except.toBool], smooth⟩, ?_⟩
    rw [List.append_assoc] at last
    exact last

/-- A step that every move takes within a relation is taken within it by the whole row. -/
theorem play_within {setup : Setup σ} {related : Pass σ μ → Pass σ μ → Prop}
    (refl : ∀ pass, related pass pass)
    (trans : ∀ first second third, related first second → related second third →
      related first third)
    (step : ∀ move : Move μ, Within related (move.run setup)) (moves : List (Move μ))
    (pass : Pass σ μ) : related pass (play setup moves pass) := by
  -- The steps of the row are taken one after the other.
  induction moves generalizing pass with
  | nil => exact refl pass
  | cons move rest ih => exact trans _ _ _ (step move pass) (ih _)

/-- The only success without a value is the empty one. -/
theorem isOk_iff {result : Except Failure Unit} : result.isOk = true ↔ result = .ok () := by
  -- There is nothing else to answer with.
  cases result <;> simp [Except.isOk, Except.toBool]

/-- The first move of a row that goes smoothly succeeds, and so do the others. -/
theorem smooth_cons {setup : Setup σ} {move : Move μ} {rest : List (Move μ)} {pass : Pass σ μ} :
    Smooth setup (move :: rest) pass ↔
      (move.run setup pass).1 = .ok () ∧ Smooth setup rest (move.run setup pass).2 := by
  exact and_congr_left fun _ => isOk_iff

section Laws

variable (setup : Setup σ) (pass : Pass σ μ)

/-- A requested source is built while the pass is open. -/
theorem run_requestSource (key : TargetKey) :
    ∃ log, (Move.requestSource key : Move μ).run setup pass =
      if pass.finalized = true then (.error (.closed .pass), pass)
      else (.ok (), { pass with
        outlet := { pass.outlet with log }
        sources := Pass.requested pass.sources key .fresh }) := by
  -- A move drops the key with which the request answers.
  obtain ⟨log, result⟩ := Pass.requestSource_apply key pass
  refine ⟨log, ?_⟩
  cases closed : pass.finalized <;>
    simp only [run, bind_apply, result, closed, Bool.false_eq_true, if_true, if_false, pure_apply]

/-- A requested service is built while the pass is open. -/
theorem run_requestService (interface : String) :
    ∃ log, (Move.requestService interface : Move μ).run setup pass =
      if pass.finalized = true then (.error (.closed .pass), pass)
      else (.ok (), { pass with
        outlet := { pass.outlet with log }
        services := Pass.requested pass.services (Pass.serviceKey interface) .fresh }) := by
  -- The service is requested under the key that all of its kind share.
  obtain ⟨log, result⟩ := Pass.requestService_apply (Pass.serviceKey interface) pass
  refine ⟨log, ?_⟩
  simp only [Pass.serviceKey] at result ⊢
  cases closed : pass.finalized <;>
    simp only [run, bind_apply, result, closed, Bool.false_eq_true, if_true, if_false, pure_apply]

/-- Closing a pass answers with what its finalization answers. -/
theorem run_finalize :
    (Move.finalize : Move μ).run setup pass =
      ((Pass.finalize setup pass).1.map fun _ => (), (Pass.finalize setup pass).2) := by
  -- Only the artifacts are dropped from the answer.
  simp only [run, bind_apply]
  rcases Pass.finalize setup pass with ⟨failure | artifacts, after⟩ <;> rfl

end Laws

/-- What a script remembers after a move. -/
def memoryAfter (before : μ) : Move μ → μ
  | .remember memory => memory
  | _ => before

/-- What every move leaves alone, whether it succeeds or not. -/
structure Frame (move : Move μ) (before after : Pass σ μ) : Prop where
  diagnostics : before.outlet.diagnostics <+: after.outlet.diagnostics
  memory : after.memory = move.memoryAfter before.memory
  closed : before.finalized = true → after.finalized = true
  sources : ∀ key, (∀ text, move ≠ .settleSource key text) →
    after.sourceAt key = before.sourceAt key

/-- Closing a pass leaves its sources and its memory alone. -/
theorem frame_finalize (setup : Setup σ) (pass : Pass σ μ) :
    Frame (.finalize : Move μ) pass (Pass.finalize setup pass).2 := by
  have closing := Pass.finalize_closing setup pass
  generalize Pass.finalize setup pass = answer at closing ⊢
  obtain ⟨result, after⟩ := answer
  -- Even if a service cannot be committed, only services have been touched.
  have spared : ∀ {later : Pass σ μ}, Pass.OnlyServices { pass with finalized := true } later →
      pass.outlet.diagnostics <+: later.outlet.diagnostics ∧
        ∀ key, later.sourceAt key = pass.sourceAt key := by
    intro later only
    have silent : later.outlet.diagnostics = pass.outlet.diagnostics := only.diagnostics
    have sources : later.sources = pass.sources := only.sources
    exact ⟨silent ▸ List.prefix_rfl, fun key => by simp [Pass.sourceAt, sources]⟩
  -- A closed pass only refuses, and an open one counts as closed afterwards.
  cases closing with
  | refused => exact ⟨List.prefix_rfl, rfl, id, fun _ _ => rfl⟩
  | failed opened committed only | closed opened committed only =>
    exact ⟨(spared only).1, only.memory, fun _ => only.finalized, fun key _ => (spared only).2 key⟩

/-- Settling a source leaves the memory and all other sources alone. -/
theorem frame_settleSource {setup : Setup σ} {key : TargetKey} {text : String}
    {before after : Pass σ μ} {result : Except Failure Unit}
    (settling : Pass.Settling setup key text before result after) :
    Frame (.settleSource key text : Move μ) before after := by
  -- A source other than the settled one is not the key that is put.
  have others : ∀ {sources : Table TargetKey SourceTarget} {target : SourceTarget} (other),
      sources = before.sources.put key target →
      (∀ more, (.settleSource key text : Move μ) ≠ .settleSource other more) →
      (sources.find? other).getD .fresh = before.sourceAt other := by
    intro sources target other put apart
    have different : other ≠ key := fun same => apart text (by rw [same])
    rw [put, Table.find?_put, if_neg different]
    rfl
  -- Each outcome that writes or reports adds to what was reported.
  cases settling with
  | repeated committed => exact ⟨List.prefix_append _ _, rfl, id, fun _ _ => rfl⟩
  | committed uncommitted formatted emitted =>
    obtain ⟨added, reported, _⟩ := (SourceTarget.emission_of_emit emitted).reported
    exact ⟨⟨added, reported.symm⟩, rfl, id, fun other apart => others other rfl apart⟩
  | unformatted uncommitted unformatted =>
    exact ⟨List.prefix_rfl, rfl, id, fun other apart => others other rfl apart⟩
  | failed uncommitted formatted emitted =>
    obtain ⟨added, reported, _⟩ := (SourceTarget.emission_of_emit emitted).reported
    exact ⟨⟨added, reported.symm⟩, rfl, id, fun other apart => others other rfl apart⟩

/-- A move keeps what was reported, what is closed, and every source that it does not settle. -/
theorem run_frame (setup : Setup σ) (move : Move μ) (pass : Pass σ μ) :
    Frame move pass (move.run setup pass).2 := by
  cases move with
  | requestSource key =>
    -- A source that is built reads as one that is not there.
    obtain ⟨log, result⟩ := run_requestSource setup pass key
    rw [result]
    split
    · exact ⟨List.prefix_rfl, rfl, id, fun _ _ => rfl⟩
    · exact ⟨List.prefix_rfl, rfl, id, fun other _ => Pass.find?_requested _ _ _ other⟩
  | settleSource key text => exact frame_settleSource (Pass.settleSource_settling setup key text pass)
  | dropSource key failure => exact ⟨List.prefix_rfl, rfl, id, fun _ _ => rfl⟩
  | requestService interface =>
    obtain ⟨log, result⟩ := run_requestService setup pass interface
    rw [result]
    split
    · exact ⟨List.prefix_rfl, rfl, id, fun _ _ => rfl⟩
    · exact ⟨List.prefix_rfl, rfl, id, fun _ _ => rfl⟩
  -- A contribution is about the services alone.
  | contribute interface text =>
    rw [run, Pass.appendService_apply]
    split
    · exact ⟨List.prefix_rfl, rfl, id, fun _ _ => rfl⟩
    · exact ⟨List.prefix_rfl, rfl, id, fun _ _ => rfl⟩
  | dropService interface failure => exact ⟨List.prefix_rfl, rfl, id, fun _ _ => rfl⟩
  | error message => exact ⟨List.prefix_append _ _, rfl, id, fun _ _ => rfl⟩
  | system message => exact ⟨List.prefix_rfl, rfl, id, fun _ _ => rfl⟩
  | finalize =>
    rw [run_finalize]
    exact frame_finalize setup pass
  | remember memory => exact ⟨List.prefix_rfl, rfl, id, fun _ _ => rfl⟩

/-- No move takes back an error. -/
theorem errors_le_play (setup : Setup σ) (moves : List (Move μ)) (pass : Pass σ μ) :
    pass.errors ≤ (play setup moves pass).errors := by
  -- What was reported stays at the front, so its errors are counted again.
  refine @play_within σ μ setup (fun before after => before.errors ≤ after.errors)
    (fun _ => Nat.le_refl _) (fun _ _ _ => Nat.le_trans) ?_ moves pass
  intro move before
  exact (run_frame setup move before).diagnostics.sublist.countP_le

/-- A reported error is counted. -/
theorem errors_error (setup : Setup σ) (message : String) (pass : Pass σ μ) :
    ((.error message : Move μ).run setup pass).2.errors = pass.errors + 1 := by
  -- It is the one diagnostic that the move adds.
  show countSeverity .error (pass.outlet.diagnostics ++ [⟨.error, strip message⟩]) = _
  simp [Pass.errors, countSeverity]

/-- A row of moves that reports no error in all reports none with any of them. -/
theorem along_quiet {setup : Setup σ} {moves : List (Move μ)} {pass : Pass σ μ}
    (same : (play setup moves pass).errors = pass.errors) :
    Along setup (fun before move => (move.run setup before).2.errors = before.errors) moves
      pass := by
  -- The number of errors never falls, so it stays the same at every move.
  induction moves generalizing pass with
  | nil => trivial
  | cons move rest ih =>
    have first := errors_le_play setup [move] pass
    have later := errors_le_play setup rest (move.run setup pass).2
    simp only [play] at first same
    exact ⟨by omega, ih (by omega)⟩

/-- Two properties along a row hold together along it. -/
theorem along_and {setup : Setup σ} {first second : Pass σ μ → Move μ → Prop}
    {moves : List (Move μ)} {pass : Pass σ μ} (left : Along setup first moves pass)
    (right : Along setup second moves pass) :
    Along setup (fun before move => first before move ∧ second before move) moves pass := by
  -- Both hold of the first move, and both along the others.
  induction moves generalizing pass with
  | nil => trivial
  | cons move rest ih => exact ⟨⟨left.1, right.1⟩, ih left.2 right.2⟩

/-- What follows from a property of moves holds along a row that has the property. -/
theorem along_imp {setup : Setup σ} {first second : Pass σ μ → Move μ → Prop}
    (weaker : ∀ before move, first before move → second before move) {moves : List (Move μ)}
    {pass : Pass σ μ} (along : Along setup first moves pass) : Along setup second moves pass := by
  induction moves generalizing pass with
  | nil => trivial
  | cons move rest ih => exact ⟨weaker _ _ along.1, ih along.2⟩

/-- What holds of every move of a row holds along it. -/
theorem along_of_forall {setup : Setup σ} {holds : Move μ → Prop} {moves : List (Move μ)}
    (all : ∀ move ∈ moves, holds move) (pass : Pass σ μ) :
    Along setup (fun _ move => holds move) moves pass := by
  -- Where a move stands does not matter.
  induction moves generalizing pass with
  | nil => trivial
  | cons move rest ih =>
    exact ⟨all move List.mem_cons_self, ih (fun other member =>
      all other (List.mem_cons_of_mem _ member)) _⟩

/-- A move that closes a pass leaves it closed, whether it succeeds or not. -/
theorem finalize_closes (setup : Setup σ) (pass : Pass σ μ) :
    ((.finalize : Move μ).run setup pass).2.finalized = true := by
  rw [run_finalize]
  have closing := Pass.finalize_closing setup pass
  generalize Pass.finalize setup pass = answer at closing ⊢
  obtain ⟨result, after⟩ := answer
  -- A pass that refuses to be closed is closed already.
  cases closing with
  | refused closed => exact closed
  | failed opened committed only => exact only.finalized
  | closed opened committed only => exact only.finalized

/-- A pass that was closed stays closed. -/
theorem closed_play (setup : Setup σ) (moves : List (Move μ)) {pass : Pass σ μ}
    (closed : pass.finalized = true) : (play setup moves pass).finalized = true :=
  @play_within σ μ setup (fun before after => before.finalized = true → after.finalized = true)
    (fun _ => id) (fun _ _ _ left right => right ∘ left)
    (fun move before => (run_frame setup move before).closed) moves pass closed

/-- Moves that leave a pass open do not close it in between. -/
theorem finalize_not_mem {setup : Setup σ} {moves : List (Move μ)} {pass : Pass σ μ}
    (opened : (play setup moves pass).finalized = false) : .finalize ∉ moves := by
  -- Had one of them closed it, the pass would still be closed.
  intro member
  obtain ⟨earlier, later, rfl⟩ := List.append_of_mem member
  have closed := closed_play setup later (finalize_closes setup (play setup earlier pass))
  rw [play_append] at opened
  exact absurd (closed.symm.trans opened) (by simp)

end Move

end Stencil
