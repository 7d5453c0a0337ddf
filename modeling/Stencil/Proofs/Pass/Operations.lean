import Stencil.Pass.Operations
import Stencil.Proofs.Target.Source

/-! Laws of the operations on a pass, on any sink: what each of them answers and changes. -/

namespace Stencil

namespace Pass

open Attempt

variable {σ μ α : Type}

@[simp] theorem onOutlet_apply (attempt : Attempt (Outlet σ) α) (pass : Pass σ μ) :
    onOutlet attempt pass =
      ((attempt pass.outlet).1, { pass with outlet := (attempt pass.outlet).2 }) := rfl

/-- A stored source is found again, and every other key reads as before. -/
theorem sourceAt_put {before after : Pass σ μ} {key : TargetKey} {target : SourceTarget}
    (put : after.sources = before.sources.put key target) (other : TargetKey) :
    after.sourceAt other = if other = key then target else before.sourceAt other := by
  -- A source that was never requested counts as fresh.
  unfold sourceAt
  rw [put, Table.find?_put]
  split <;> rfl

/-- A stored service is found again, and every other key reads as before. -/
theorem serviceAt_put {before after : Pass σ μ} {key : TargetKey} {target : ServiceTarget}
    (put : after.services = before.services.put key target) (other : TargetKey) :
    after.serviceAt other = if other = key then target else before.serviceAt other := by
  -- A service that was never requested counts as fresh.
  unfold serviceAt
  rw [put, Table.find?_put]
  split <;> rfl

/-- The targets after a request: one that is not there yet is fresh. -/
def requested {τ : Type} (targets : Table TargetKey τ) (key : TargetKey) (fresh : τ) :
    Table TargetKey τ :=
  if targets.contains key then targets else targets.put key fresh

/-- A request finds its target there, or puts it where there was none. -/
theorem requested_cases {τ : Type} (targets : Table TargetKey τ) (key : TargetKey) (fresh : τ) :
    requested targets key fresh = targets ∧ key ∈ targets.keys ∨
      requested targets key fresh = targets.put key fresh ∧ targets.find? key = none := by
  by_cases there : targets.contains key = true
  · exact Or.inl ⟨if_pos there, (Table.contains_iff targets key).1 there⟩
  · refine Or.inr ⟨if_neg there, ?_⟩
    simpa [Table.contains] using there

/-- A request changes what no key reads, as a target that is not there counts as fresh. -/
theorem find?_requested {τ : Type} (targets : Table TargetKey τ) (key : TargetKey) (fresh : τ)
    (other : TargetKey) :
    ((requested targets key fresh).find? other).getD fresh =
      (targets.find? other).getD fresh := by
  rcases requested_cases targets key fresh with ⟨same, _⟩ | ⟨put, absent⟩
  · rw [same]
  -- Only a target that was not there is put, and it is put fresh.
  · rw [put, Table.find?_put]
    split
    · rename_i same
      rw [same, absent]
      rfl
    · rfl

/-- The keys after a request are the requested one and those that were there. -/
theorem mem_keys_requested {τ : Type} {targets : Table TargetKey τ} {key other : TargetKey}
    {fresh : τ} :
    other ∈ (requested targets key fresh).keys ↔ other = key ∨ other ∈ targets.keys := by
  -- A key that is known is among those that were there.
  rcases requested_cases targets key fresh with ⟨same, known⟩ | ⟨put, _⟩
  · rw [same]
    exact ⟨Or.inr, fun either => either.elim (fun equal => equal ▸ known) id⟩
  · rw [put]
    exact Table.mem_keys_put

/-- A request of a service changes no service, as one that is not there counts as fresh. -/
theorem serviceAt_requested {before after : Pass σ μ} {key : TargetKey}
    (same : after.services = requested before.services key .fresh) (other : TargetKey) :
    after.serviceAt other = before.serviceAt other := by
  unfold serviceAt
  rw [same]
  exact find?_requested before.services key .fresh other

/-- A request of a source is refused once the pass is closed, and otherwise builds the target. -/
theorem requestSource_apply (key : TargetKey) (pass : Pass σ μ) :
    ∃ log, requestSource (some key.package) (some key.name) pass =
      if pass.finalized = true then (.error (.closed .pass), pass)
      else (.ok key, { pass with
        outlet := { pass.outlet with log }
        sources := requested pass.sources key .fresh }) := by
  -- A key is recorded in the log only when its target is built.
  obtain ⟨outlet, console, sources, services, finalized, memory⟩ := pass
  cases finalized with
  | true => exact ⟨[], rfl⟩
  | false =>
    unfold requestSource requested
    -- An open pass builds the target unless it is there.
    cases known : sources.contains key
    · refine ⟨outlet.log ++ [createdRecord key], ?_⟩
      simp only [checkOpen, bind_apply, ofExcept_apply, state_apply, pure_apply,
        TargetKey.ofParts, mapError_ok, known, Bool.not_false, Bool.false_eq_true, if_true,
        if_false, note, onOutlet_apply, Outlet.note_apply, storeSource, change_apply]
    · refine ⟨outlet.log, ?_⟩
      simp only [checkOpen, bind_apply, ofExcept_apply, state_apply, pure_apply,
        TargetKey.ofParts, mapError_ok, known, Bool.not_true, Bool.false_eq_true, if_true,
        if_false]

/-- A request of a service is refused once the pass is closed, and otherwise builds the target. -/
theorem requestService_apply (key : TargetKey) (pass : Pass σ μ) :
    ∃ log, requestService (some key.package) (some key.name) pass =
      if pass.finalized = true then (.error (.closed .pass), pass)
      else (.ok key, { pass with
        outlet := { pass.outlet with log }
        services := requested pass.services key .fresh }) := by
  -- The table of services takes the place of that of the sources.
  obtain ⟨outlet, console, sources, services, finalized, memory⟩ := pass
  cases finalized with
  | true => exact ⟨[], rfl⟩
  | false =>
    unfold requestService requested
    -- An open pass builds the target unless it is there.
    cases known : services.contains key
    · refine ⟨outlet.log ++ [createdRecord key], ?_⟩
      simp only [checkOpen, bind_apply, ofExcept_apply, state_apply, pure_apply,
        TargetKey.ofParts, mapError_ok, known, Bool.not_false, Bool.false_eq_true, if_true,
        if_false, note, onOutlet_apply, Outlet.note_apply, storeService, change_apply]
    · refine ⟨outlet.log, ?_⟩
      simp only [checkOpen, bind_apply, ofExcept_apply, state_apply, pure_apply,
        TargetKey.ofParts, mapError_ok, known, Bool.not_true, Bool.false_eq_true, if_true,
        if_false]

/-- Text is added to a service until it is committed. -/
theorem appendService_apply (key : TargetKey) (text : String) (pass : Pass σ μ) :
    appendService key text pass =
      if (pass.serviceAt key).completed = true then (.error (.closed (.service key)), pass)
      else
        (.ok (), { pass with
          services := pass.services.put key
            ⟨(pass.serviceAt key).lines ++ lines text, (pass.serviceAt key).artifact⟩ }) := by
  -- A committed service is refused, and its pass stays as it is.
  unfold appendService ServiceTarget.append
  by_cases completed : (pass.serviceAt key).completed = true <;>
    simp [bind_apply, completed, storeService]

/-- The diagnostic of a source that was committed before in the same pass. -/
def repeatedDiagnostic (key : TargetKey) : Diagnostic :=
  ⟨.error, "Generated source file name collision. " ++
    s!"{key.toText} was already generated in this pass"⟩

/-- What settling a source with a text can come to. -/
inductive Settling (setup : Setup σ) (key : TargetKey) (text : String) (pass : Pass σ μ) :
    Except Failure Unit → Pass σ μ → Prop where
  /-- The source was committed before: an error is reported, and nothing else happens. -/
  | repeated {log : List LogRecord} (committed : (pass.sourceAt key).committed = true) :
      Settling setup key text pass (.ok ())
        { pass with
          outlet := ⟨pass.outlet.state, pass.outlet.diagnostics ++ [repeatedDiagnostic key], log⟩ }
  /-- The source is committed with the text added to it. -/
  | committed {shown : String} {artifact : Artifact} {outlet : Outlet σ} {log : List LogRecord}
      (uncommitted : (pass.sourceAt key).committed = false)
      (formatted : setup.style.formatter ((pass.sourceAt key).content ++ text) = .ok shown)
      (emitted : SourceTarget.emit setup.sink key (key.name ++ setup.style.suffix) shown
        pass.outlet = (.ok artifact, outlet)) :
      Settling setup key text pass (.ok ())
        { pass with
          outlet := { outlet with log }
          sources :=
            pass.sources.put key ⟨(pass.sourceAt key).content ++ text, some artifact⟩ }
  /-- The text is refused by the formatter, and stays added. -/
  | unformatted {failure : Failure} (uncommitted : (pass.sourceAt key).committed = false)
      (unformatted : setup.style.formatter ((pass.sourceAt key).content ++ text) = .error failure) :
      Settling setup key text pass (.error failure)
        { pass with
          sources := pass.sources.put key ⟨(pass.sourceAt key).content ++ text, none⟩ }
  /-- The formatted text could not be written, and the text stays added. -/
  | failed {shown : String} {failure : Failure} {outlet : Outlet σ}
      (uncommitted : (pass.sourceAt key).committed = false)
      (formatted : setup.style.formatter ((pass.sourceAt key).content ++ text) = .ok shown)
      (emitted : SourceTarget.emit setup.sink key (key.name ++ setup.style.suffix) shown
        pass.outlet = (.error failure, outlet)) :
      Settling setup key text pass (.error failure)
        { pass with
          outlet
          sources := pass.sources.put key ⟨(pass.sourceAt key).content ++ text, none⟩ }

/-- Committing a source stores the target that it leaves behind, unless it fails. -/
theorem completeSource_apply (setup : Setup σ) (key : TargetKey) (pass : Pass σ μ) :
    completeSource setup key pass =
      match (pass.sourceAt key).complete setup.sink setup.style key pass.outlet with
      | (.error failure, outlet) => (.error failure, { pass with outlet })
      | (.ok target, outlet) =>
        (.ok (), { pass with outlet, sources := pass.sources.put key target }) := by
  -- Where the commit fails, nothing is stored.
  unfold completeSource
  simp only [bind_apply, state_apply, onOutlet_apply]
  rcases (pass.sourceAt key).complete setup.sink setup.style key pass.outlet with
    ⟨failure | target, outlet⟩ <;> rfl

/-- Text is added to a source until it is committed. -/
theorem appendSource_apply (key : TargetKey) (text : String) (pass : Pass σ μ) :
    appendSource key text pass =
      if (pass.sourceAt key).committed = true then (.error (.closed (.source key)), pass)
      else
        (.ok (), { pass with
          sources := pass.sources.put key
            ⟨(pass.sourceAt key).content ++ text, (pass.sourceAt key).artifact⟩ }) := by
  -- A committed source is refused, and its pass stays as it is.
  unfold appendSource SourceTarget.append
  by_cases committed : (pass.sourceAt key).committed = true <;>
    simp [bind_apply, committed, storeSource]

/-- Settling a source that is not committed adds the text to it, and then commits it. -/
theorem settleSource_uncommitted (setup : Setup σ) {key : TargetKey} (text : String)
    {pass : Pass σ μ} (uncommitted : (pass.sourceAt key).committed = false) :
    settleSource setup key text pass = completeSource setup key { pass with
      sources := pass.sources.put key ⟨(pass.sourceAt key).content ++ text, none⟩ } := by
  have artifact : (pass.sourceAt key).artifact = none := by
    simpa [SourceTarget.committed] using uncommitted
  -- The text is added to a target without an artifact.
  have added := appendSource_apply key text pass
  simp only [uncommitted, Bool.false_eq_true, if_false, artifact] at added
  unfold settleSource
  rw [bind_apply, state_apply]
  simp only [uncommitted, Bool.false_eq_true, if_false]
  rw [bind_of_ok added]

/-- Settling a source comes to one of the four. -/
theorem settleSource_settling (setup : Setup σ) (key : TargetKey) (text : String)
    (pass : Pass σ μ) :
    Settling setup key text pass (settleSource setup key text pass).1
      (settleSource setup key text pass).2 := by
  -- A source is looked at only once its text is there.
  by_cases committed : (pass.sourceAt key).committed = true
  · unfold settleSource
    rw [bind_apply, state_apply]
    simp only [committed, if_true]
    exact .repeated committed
  have uncommitted : (pass.sourceAt key).committed = false := by simpa using committed
  -- The target with the text behind its own is the one to commit.
  rw [settleSource_uncommitted setup text uncommitted, completeSource_apply, sourceAt_put rfl,
    if_pos rfl]
  obtain ⟨log, completed⟩ := @SourceTarget.complete_apply σ setup.sink setup.style key
    ⟨(pass.sourceAt key).content ++ text, none⟩ rfl pass.outlet
  simp only [completed]
  cases formatted : setup.style.formatter ((pass.sourceAt key).content ++ text) with
  | error failure => exact .unformatted uncommitted formatted
  | ok shown =>
    rcases emitted : SourceTarget.emit setup.sink key (key.name ++ setup.style.suffix) shown
      pass.outlet with ⟨failure | made, outlet⟩
    · simp only [emitted]
      exact .failed uncommitted formatted emitted
    · simp only [emitted, Table.put_put]
      exact .committed uncommitted formatted emitted

end Pass

end Stencil
