import Stencil.Proofs.Pass.Move
import Stencil.Sink.Files

/-! Settled sources: a source is committed exactly if it was settled, and with the text with which
it was settled first. -/

namespace Stencil

/-- The setup of a pass over files whose formatter refuses no text. -/
def FileSettings.setup (settings : FileSettings) (suffix : String) (rewrite : String → String)
    (look : Path → FileState → Option ByteArray) : Setup FileState :=
  ⟨settings.sink, ⟨suffix, fun text => .ok (rewrite text)⟩, look⟩

namespace Move

variable {σ μ : Type}

/-- The text with which a key was settled first, if it was settled. -/
def firstText? (key : TargetKey) : List (Move μ) → Option String
  | [] => none
  | .settleSource other text :: rest => if other = key then some text else firstText? key rest
  | _ :: rest => firstText? key rest

/-- Later moves count only for a key that was not settled before. -/
theorem firstText?_append (key : TargetKey) (moves more : List (Move μ)) :
    firstText? key (moves ++ more) = (firstText? key moves).or (firstText? key more) := by
  -- The search stops at the first move that settles the key.
  induction moves with
  | nil => rfl
  | cons first rest ih =>
    cases first with
    | settleSource other text =>
      by_cases same : other = key
      · simp [firstText?, same]
      · simpa [firstText?, same] using ih
    | _ => exact ih

/-- A move that does not settle a key says nothing about its text. -/
theorem firstText?_other {key : TargetKey} {move : Move μ}
    (apart : ∀ text, move ≠ .settleSource key text) : firstText? key [move] = none := by
  -- A single move has no other chance to settle the key.
  cases move with
  | settleSource other text =>
    have different : other ≠ key := fun same => apart text (by rw [same])
    simp [firstText?, different]
  | _ => rfl

end Move

namespace Pass

open Move

variable {σ μ : Type}

/-- Every source stands as its first settling left it: one that was settled is committed with the
text of that settling, and one that was not holds no text. -/
def Settled (moves : List (Move μ)) (pass : Pass σ μ) : Prop :=
  ∀ key, match firstText? key moves with
    | none => pass.sourceAt key = .fresh
    | some text => ∃ artifact, pass.sourceAt key = ⟨text, some artifact⟩

/-- Nothing is settled at the start of a pass. -/
theorem settled_start (state : σ) (diagnostics : List Diagnostic) (memory : μ) :
    Settled [] (.start state diagnostics memory) := fun _ => rfl

/-- A source that was not settled is uncommitted and holds no text. -/
theorem Settled.untouched {moves : List (Move μ)} {pass : Pass σ μ} (settled : Settled moves pass)
    {key : TargetKey} (never : firstText? key moves = none) : pass.sourceAt key = .fresh := by
  have here := settled key
  rw [never] at here
  exact here

/-- A source that was settled is committed. -/
theorem Settled.committed {moves : List (Move μ)} {pass : Pass σ μ} (settled : Settled moves pass)
    {key : TargetKey} {text : String} (first : firstText? key moves = some text) :
    ∃ artifact, pass.sourceAt key = ⟨text, some artifact⟩ := by
  have here := settled key
  rw [first] at here
  exact here

/-- What a settling does where all sources stand as they were settled first. -/
inductive Resettling (setup : Setup σ) (moves : List (Move μ)) (key : TargetKey) (text : String)
    (before : Pass σ μ) : Pass σ μ → Prop where
  /-- The first one commits its own text. -/
  | first {shown : String} {artifact : Artifact} {outlet : Outlet σ} {log : List LogRecord}
      (never : firstText? key moves = none) (untouched : before.sourceAt key = .fresh)
      (formatted : setup.style.formatter text = .ok shown)
      (emitted : SourceTarget.emit setup.sink key (key.name ++ setup.style.suffix) shown
        before.outlet = (.ok artifact, outlet)) :
      Resettling setup moves key text before
        { before with
          outlet := { outlet with log }
          sources := before.sources.put key ⟨text, some artifact⟩ }
  /-- Every later one reports an error, and does nothing else. -/
  | later {earlier : String} {log : List LogRecord} (known : firstText? key moves = some earlier) :
      Resettling setup moves key text before
        { before with
          outlet :=
            ⟨before.outlet.state, before.outlet.diagnostics ++ [repeatedDiagnostic key], log⟩ }

/-- A settling that succeeds is the first one of its key, or one of the later ones. -/
theorem Settled.resettling {moves : List (Move μ)} {pass after : Pass σ μ}
    (settled : Settled moves pass) {setup : Setup σ} {key : TargetKey} {text : String}
    (settling : Settling setup key text pass (.ok ()) after) :
    Resettling setup moves key text pass after := by
  -- A committed source is never committed again, and an untouched one is not committed.
  cases first : firstText? key moves with
  | none =>
    have untouched := settled.untouched first
    cases settling with
    | repeated committed =>
      rw [untouched] at committed
      cases committed
    | committed uncommitted formatted emitted =>
      -- The source holds no text of its own yet.
      simp only [untouched, SourceTarget.fresh, String.empty_append] at formatted ⊢
      exact .first first untouched formatted emitted
  | some earlier =>
    obtain ⟨artifact, stands⟩ := settled.committed first
    cases settling with
    | repeated committed => exact .later first
    | committed uncommitted formatted emitted =>
      rw [stands] at uncommitted
      cases uncommitted

/-- An untouched source is committed with its text if the formatted text can be written. -/
theorem settleSource_untouched {setup : Setup σ} {key : TargetKey} {text shown : String}
    {pass : Pass σ μ} {artifact : Artifact} {outlet : Outlet σ}
    (untouched : pass.sourceAt key = .fresh) (formatted : setup.style.formatter text = .ok shown)
    (emitted : SourceTarget.emit setup.sink key (key.name ++ setup.style.suffix) shown
      pass.outlet = (.ok artifact, outlet)) :
    ∃ log, settleSource setup key text pass = (.ok (), { pass with
      outlet := { outlet with log }
      sources := pass.sources.put key ⟨text, some artifact⟩ }) := by
  -- Of the four outcomes, the other ones need another source, formatter or sink.
  have settling := settleSource_settling setup key text pass
  generalize settleSource setup key text pass = answer at settling ⊢
  obtain ⟨result, after⟩ := answer
  have content : (pass.sourceAt key).content ++ text = text := by
    rw [untouched]
    exact String.empty_append
  cases settling with
  | repeated committed =>
    rw [untouched] at committed
    cases committed
  | unformatted _ refused =>
    rw [content, formatted] at refused
    cases refused
  | failed _ shaped refused =>
    rw [content, formatted] at shaped
    cases shaped
    cases emitted.symm.trans refused
  | @committed _ _ _ log _ shaped wrote =>
    rw [content, formatted] at shaped
    cases shaped
    cases emitted.symm.trans wrote
    exact ⟨log, by rw [content]⟩

/-- Every move keeps the sources as they were settled first, if the settlings succeed. -/
theorem Settled.step {moves : List (Move μ)} {pass : Pass σ μ} (settled : Settled moves pass)
    {setup : Setup σ} {move : Move μ}
    (succeeds : ∀ key text, move = .settleSource key text →
      (move.run setup pass).1 = .ok ()) :
    Settled (moves ++ [move]) (move.run setup pass).2 := by
  intro key
  rw [firstText?_append]
  by_cases settles : ∃ text, move = .settleSource key text
  -- A settling either commits its source, or finds it committed.
  · obtain ⟨text, rfl⟩ := settles
    have settling := settleSource_settling setup key text pass
    rw [show (settleSource setup key text pass).1 = .ok () from succeeds key text rfl] at settling
    have resettling := settled.resettling settling
    have put : firstText? key [(.settleSource key text : Move μ)] = some text := by
      simp [firstText?]
    show match (firstText? key moves).or _ with
      | none => (settleSource setup key text pass).2.sourceAt key = .fresh
      | some first => ∃ artifact, (settleSource setup key text pass).2.sourceAt key =
          ⟨first, some artifact⟩
    generalize (settleSource setup key text pass).2 = after at resettling ⊢
    cases resettling with
    | @first _ artifact _ _ never =>
      rw [never, put]
      exact ⟨artifact, by rw [sourceAt_put rfl, if_pos rfl]⟩
    -- A later settling keeps the text of the first one.
    | later known =>
      rw [known]
      exact settled.committed known
  -- A move that does not settle the key leaves its source as it is.
  · have apart : ∀ text, move ≠ .settleSource key text := fun text same => settles ⟨text, same⟩
    rw [firstText?_other apart, Option.or_none, (Move.run_frame setup move pass).sources key apart]
    exact settled key

end Pass

end Stencil
