import Stencil.Proofs.Pass.Move

/-! Source calls that return: a source is committed exactly if some call for it has returned, and
sources are committed in the order in which their calls first returned, whatever failed in between. -/

namespace Stencil

namespace Move

variable {σ μ : Type} (setup : Setup σ)

/-- The key for which a source call returns with a move, if it does. -/
def returns (pass : Pass σ μ) : Move μ → List TargetKey
  | .settleSource key text =>
    if ((Move.settleSource key text : Move μ).run setup pass).1.isOk then [key] else []
  | _ => []

/-- The keys for which source calls return in a row of moves, in order. -/
def returned : List (Move μ) → Pass σ μ → List TargetKey
  | [], _ => []
  | move :: rest, pass => move.returns setup pass ++ returned rest (move.run setup pass).2

/-- The keys of the sources that are committed after a step and were not committed before it. -/
def newlyCommitted (before after : Pass σ μ) : List TargetKey :=
  after.sources.keys.filter fun key =>
    (after.sourceAt key).committed && !(before.sourceAt key).committed

/-- The keys of the sources that a row of moves commits, in the order of their commits. -/
def commits : List (Move μ) → Pass σ μ → List TargetKey
  | [], _ => []
  | move :: rest, pass =>
    newlyCommitted pass (move.run setup pass).2 ++ commits rest (move.run setup pass).2

variable {setup}

/-- A source that is known is found again among the keys, and no other source is committed. -/
theorem mem_keys_of_committed {pass : Pass σ μ} {key : TargetKey}
    (committed : (pass.sourceAt key).committed = true) : key ∈ pass.sources.keys := by
  -- A source that is not there counts as fresh.
  rw [← Table.contains_iff, Table.contains]
  unfold Pass.sourceAt at committed
  cases found : pass.sources.find? key with
  | some target => rfl
  | none =>
    rw [found] at committed
    cases committed

/-- A settling commits its own source if it returns, and no other one. -/
theorem settleSource_committed (setup : Setup σ) (key : TargetKey) (text : String)
    (pass : Pass σ μ) (other : TargetKey) :
    ((Pass.settleSource setup key text pass).2.sourceAt other).committed = true ↔
      (pass.sourceAt other).committed = true ∨
        other = key ∧ (Pass.settleSource setup key text pass).1.isOk = true := by
  have settling := Pass.settleSource_settling setup key text pass
  generalize Pass.settleSource setup key text pass = answer at settling ⊢
  obtain ⟨result, after⟩ := answer
  -- A source that stays uncommitted was not committed before.
  have stays : ∀ {content : String} {later : Pass σ μ},
      (pass.sourceAt key).committed = false →
      later.sources = pass.sources.put key ⟨content, none⟩ →
      ((later.sourceAt other).committed = true ↔ (pass.sourceAt other).committed = true) := by
    intro content later uncommitted put
    rw [Pass.sourceAt_put put]
    split
    · rename_i same
      rw [same, uncommitted]
      simp [SourceTarget.committed]
    · rfl
  -- Only the second of the four outcomes commits the source.
  cases settling with
  | repeated committed =>
    refine ⟨Or.inl, fun either => either.elim id fun here => ?_⟩
    show (pass.sourceAt other).committed = true
    rw [here.1]
    exact committed
  | committed uncommitted formatted emitted =>
    rw [Pass.sourceAt_put rfl]
    split
    · rename_i same
      simp [same, SourceTarget.committed, Except.isOk, Except.toBool]
    · rename_i different
      simp [different]
  | unformatted uncommitted | failed uncommitted =>
    rw [stays uncommitted rfl]
    simp [Except.isOk, Except.toBool]

/-- After a move, a source is committed if it was before, or if its call has returned with the
move. -/
theorem run_committed (move : Move μ) (pass : Pass σ μ) (key : TargetKey) :
    ((move.run setup pass).2.sourceAt key).committed = true ↔
      (pass.sourceAt key).committed = true ∨ key ∈ move.returns setup pass := by
  cases move with
  | settleSource other text =>
    have settled := settleSource_committed setup other text pass key
    show ((Pass.settleSource setup other text pass).2.sourceAt key).committed = true ↔ _
    rw [settled]
    show _ ↔ _ ∨ key ∈ if (Pass.settleSource setup other text pass).1.isOk then [other] else []
    cases (Pass.settleSource setup other text pass).1.isOk <;> simp
  | requestSource | dropSource | requestService | contribute | dropService | error | system
  | finalize | remember =>
    -- No other move touches a source.
    rw [(run_frame setup _ pass).sources key (by simp)]
    simp [returns]

/-- After a row of moves, a source is committed if it was before, or if some call for it has
returned. -/
theorem play_committed {moves : List (Move μ)} {pass : Pass σ μ} {key : TargetKey} :
    ((play setup moves pass).sourceAt key).committed = true ↔
      (pass.sourceAt key).committed = true ∨ key ∈ returned setup moves pass := by
  induction moves generalizing pass with
  | nil => simp [play, returned]
  | cons move rest ih => rw [play, ih, run_committed, returned, List.mem_append, or_assoc]

/-- A committed source stays as it is, whatever the move. -/
theorem run_keeps_committed (move : Move μ) {pass : Pass σ μ} {key : TargetKey}
    (committed : (pass.sourceAt key).committed = true) :
    (move.run setup pass).2.sourceAt key = pass.sourceAt key := by
  by_cases settles : ∃ text, move = .settleSource key text
  -- Settling it once more only reports that it was committed before.
  · obtain ⟨text, rfl⟩ := settles
    have settling := Pass.settleSource_settling setup key text pass
    show (Pass.settleSource setup key text pass).2.sourceAt key = pass.sourceAt key
    generalize Pass.settleSource setup key text pass = answer at settling ⊢
    obtain ⟨result, after⟩ := answer
    cases settling with
    | repeated => rfl
    | committed uncommitted | unformatted uncommitted | failed uncommitted =>
      cases committed.symm.trans uncommitted
  · exact (run_frame setup move pass).sources key fun text same => settles ⟨text, same⟩

/-- A committed source stays as it is along a row of moves. -/
theorem play_keeps_committed (moves : List (Move μ)) {pass : Pass σ μ} {key : TargetKey}
    (committed : (pass.sourceAt key).committed = true) :
    (play setup moves pass).sourceAt key = pass.sourceAt key := by
  induction moves generalizing pass with
  | nil => rfl
  | cons move rest ih =>
    -- The first move leaves the source committed, so the others meet it as such.
    have kept : (move.run setup pass).2.sourceAt key = pass.sourceAt key :=
      run_keeps_committed move committed
    rw [play, ih (by rw [kept, committed]), kept]

/-- A move returns for one key at most. -/
theorem returns_short (move : Move μ) (pass : Pass σ μ) :
    move.returns setup pass = [] ∨ ∃ key, move.returns setup pass = [key] := by
  cases move with
  | settleSource key text =>
    simp only [returns]
    cases ((Move.settleSource key text : Move μ).run setup pass).1.isOk <;> simp
  | _ => exact Or.inl rfl

/-- A move commits the source whose call returns with it, unless it was committed before. -/
theorem newlyCommitted_run (move : Move μ) (pass : Pass σ μ) :
    newlyCommitted pass (move.run setup pass).2 =
      (move.returns setup pass).filter fun key => !(pass.sourceAt key).committed := by
  -- Both lists have the same keys, and each of them once.
  have distinct : (newlyCommitted pass (move.run setup pass).2).Nodup :=
    (move.run setup pass).2.sources.nodup.filter _
  have single : (move.returns setup pass).Nodup := by
    rcases @returns_short σ μ setup move pass with none | ⟨key, one⟩
    · simp [none]
    · simp [one]
  have same : (newlyCommitted pass (move.run setup pass).2).Perm
      ((move.returns setup pass).filter fun key => !(pass.sourceAt key).committed) := by
    refine (List.perm_ext_iff_of_nodup distinct (single.filter _)).2 fun key => ?_
    have after := @run_committed σ μ setup move pass key
    simp only [newlyCommitted, List.mem_filter, Bool.and_eq_true, Bool.not_eq_true']
    constructor
    -- What is committed now and was not before has returned with this move.
    · rintro ⟨_, committed, uncommitted⟩
      exact ⟨(after.1 committed).resolve_left (by simp [uncommitted]), uncommitted⟩
    · rintro ⟨returns, uncommitted⟩
      have committed := after.2 (Or.inr returns)
      exact ⟨mem_keys_of_committed committed, committed, uncommitted⟩
  -- One key has one order.
  rcases @returns_short σ μ setup move pass with none | ⟨key, one⟩
  · rw [none] at same ⊢
    exact List.perm_nil.1 same
  · rw [one] at same ⊢
    cases uncommitted : (pass.sourceAt key).committed with
    | true => simpa [uncommitted] using same
    | false => simpa [uncommitted] using same

/-- Sources are committed in the order in which their calls first returned. -/
theorem commits_eq (moves : List (Move μ)) (pass : Pass σ μ) :
    commits setup moves pass =
      ((returned setup moves pass).filter fun key => !(pass.sourceAt key).committed).eraseDups := by
  induction moves generalizing pass with
  | nil => rfl
  | cons move rest ih =>
    -- A source is uncommitted after the move if it was before it and its call has not returned.
    have later : ∀ key, (!((move.run setup pass).2.sourceAt key).committed) =
        (!decide (key ∈ move.returns setup pass) && !(pass.sourceAt key).committed) := by
      intro key
      have after := @run_committed σ μ setup move pass key
      rw [← Bool.not_or, Bool.not_inj_iff, Bool.eq_iff_iff, after]
      simp [or_comm]
    rw [commits, ih, newlyCommitted_run, returned]
    simp only [later]
    rcases @returns_short σ μ setup move pass with none | ⟨key, one⟩
    · simp [none]
    · rw [one]
      cases committed : (pass.sourceAt key).committed with
      | true =>
        -- Nothing is new, and later calls for the key count for as little as this one.
        have same : ∀ other, (!decide (other ∈ [key]) && !(pass.sourceAt other).committed) =
            !(pass.sourceAt other).committed := by
          intro other
          by_cases equal : other = key <;> simp [equal, committed]
        simp only [same, List.singleton_append, List.filter_cons, committed]
        rfl
      -- The key is committed first here, and left out of what comes later.
      | false =>
        simp only [List.singleton_append, List.filter_cons, committed, Bool.not_false, if_true,
          List.filter_nil, List.eraseDups_cons, List.filter_filter, List.mem_singleton]
        rfl

end Move

end Stencil
