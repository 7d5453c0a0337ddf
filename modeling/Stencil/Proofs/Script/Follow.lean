import Stencil.Proofs.Script.Interpret

/-! Two ways to carry out scripts: where each move on one of them follows the other, so does every
script. -/

namespace Stencil

open Attempt

/-- An attempt follows another one on related states: it answers the same and ends related, unless
the other one is lost, which it then stays. -/
structure Follows {τ υ α : Type} (related : τ → υ → Prop) (lost : τ → Prop)
    (leader : Attempt τ α) (follower : Attempt υ α) : Prop where
  stays : ∀ {state}, lost state → lost (leader state).2
  goes : ∀ {state other}, related state other → lost (leader state).2 ∨
    ((follower other).1 = (leader state).1 ∧ related (leader state).2 (follower other).2)

namespace Follows

variable {τ υ μ α β : Type} {related : τ → υ → Prop} {lost : τ → Prop}

/-- What changes nothing follows itself. -/
theorem same (result : Except Failure α) :
    Follows related lost (.ofExcept result) (.ofExcept result) :=
  ⟨id, fun together => Or.inr ⟨rfl, together⟩⟩

/-- A sequence follows a sequence part by part. -/
theorem bind {leader : Attempt τ α} {follower : Attempt υ α} {leaders : α → Attempt τ β}
    {followers : α → Attempt υ β} (here : Follows related lost leader follower)
    (there : ∀ value, Follows related lost (leaders value) (followers value)) :
    Follows related lost (leader >>= leaders) (follower >>= followers) := by
  -- The second part is begun only after a first part that both sides have left with the same value.
  constructor
  · intro state gone
    have begun := here.stays gone
    rw [bind_apply]
    generalize leader state = answer at begun ⊢
    obtain ⟨failure | value, after⟩ := answer
    · exact begun
    · exact (there value).stays begun
  · intro state other together
    have begun := @Follows.goes _ _ _ _ _ _ _ here state other together
    rw [bind_apply, bind_apply]
    generalize leader state = answer at begun ⊢
    generalize follower other = reply at begun ⊢
    obtain ⟨result, after⟩ := answer
    obtain ⟨result', after'⟩ := reply
    -- Either the leader is lost after its first part, or both go on from the same answer.
    rcases begun with gone | ⟨same, along⟩
    · refine Or.inl ?_
      cases result with
      | error failure => exact gone
      | ok value => exact (there value).stays gone
    · obtain rfl : result' = result := same
      cases result' with
      | error failure => exact Or.inr ⟨rfl, along⟩
      | ok value => exact (there value).goes along

/-- Turning failures into values keeps what follows. -/
theorem outcome {leader : Attempt τ α} {follower : Attempt υ α}
    (here : Follows related lost leader follower) :
    Follows related lost leader.outcome follower.outcome := by
  -- The states are those that the attempts themselves end in.
  refine ⟨here.stays, fun together => ?_⟩
  rcases here.goes together with gone | ⟨same, along⟩
  · exact Or.inl gone
  · exact Or.inr ⟨congrArg Except.ok same, along⟩

/-- What is seen in the same way from related states leads on to what follows. -/
theorem read {γ : Type} {view : τ → γ} {view' : υ → γ}
    (agree : ∀ state other, related state other → view state = view' other)
    {leaders : γ → Attempt τ α} {followers : γ → Attempt υ α}
    (there : ∀ value, Follows related lost (leaders value) (followers value)) :
    Follows related lost (Attempt.state >>= fun state => leaders (view state))
      (Attempt.state >>= fun other => followers (view' other)) := by
  -- Both sides see the same, and so go on with the same part.
  refine ⟨fun {state} gone => (there (view state)).stays gone, fun {state other} together => ?_⟩
  have along := (there (view state)).goes together
  simp only [bind_apply, state_apply, ← agree state other together]
  exact along

end Follows

namespace Script

variable {σ τ υ μ : Type}

/-- Tests for the scripts that look at no file. -/
def Blind : Script μ → Prop
  | .done _ => True
  | .fail _ => True
  | .source _ _ body next => (∀ call, Blind (body call)) ∧ Blind next
  | .service _ body next => (∀ call, Blind (body call)) ∧ Blind next
  | .error _ next => Blind next
  | .system _ next => Blind next
  | .trim body next => (∀ call, Blind (body call)) ∧ ∀ text, Blind (next text)
  | .collapsible body next => (∀ call, Blind (body call)) ∧ ∀ text, Blind (next text)
  | .linesShortable body _ next => (∀ call, Blind (body call)) ∧ ∀ text, Blind (next text)
  | .finalize next => Blind next
  | .recover body next => Blind body ∧ ∀ outcome, Blind (next outcome)
  | .look _ _ => False
  | .remembered next => ∀ memory, Blind (next memory)
  | .remember _ next => Blind next

/-- A script that looks at no file is carried out alike without sight. -/
theorem interpret_blindfold (carrier : Carrier τ μ) {script : Script μ} (blind : script.Blind) :
    script.interpret carrier.blindfold = script.interpret carrier := by
  -- The two differ where a file is looked at, and nowhere else.
  induction script with
  | done text => rfl
  | fail failure => rfl
  | source package name body next bodies rest =>
    rw [interpret, interpret, bodies 0 (blind.1 0), rest blind.2]
    rfl
  | service interface body next bodies rest =>
    rw [interpret, interpret, bodies 0 (blind.1 0), rest blind.2]
    rfl
  | error message next rest => rw [interpret, interpret, rest blind]; rfl
  | system message next rest => rw [interpret, interpret, rest blind]; rfl
  | trim body next bodies rest =>
    simp only [interpret, fun call => bodies call (blind.1 call), fun text => rest text (blind.2 text)]
  | collapsible body next bodies rest =>
    simp only [interpret, fun call => bodies call (blind.1 call), fun text => rest text (blind.2 text)]
  | linesShortable body width next bodies rest =>
    simp only [interpret, fun call => bodies call (blind.1 call), fun text => rest text (blind.2 text)]
  | finalize next rest => rw [interpret, interpret, rest blind]; rfl
  | recover body next inner rest =>
    simp only [interpret, inner blind.1, fun outcome => rest outcome (blind.2 outcome)]
  | look path next rest => exact blind.elim
  | remembered next rest =>
    simp only [interpret, fun memory => rest memory (blind memory)]
    rfl
  | remember memory next rest => rw [interpret, interpret, rest blind]; rfl

variable {related : τ → υ → Prop} {lost : τ → Prop} {leader : Carrier τ μ} {follower : Carrier υ μ}

/-- Where each move follows, a call that writes a source follows with its body. -/
theorem source_follows (acts : ∀ move, Follows related lost (leader.act move) (follower.act move))
    (key : TargetKey) {body : Attempt τ String} {body' : Attempt υ String}
    (inner : Follows related lost body body') :
    Follows related lost (leader.source key body) (follower.source key body') := by
  -- The answer of the body decides which move comes last.
  refine (acts _).bind fun _ => inner.outcome.bind fun answer => ?_
  cases answer with
  | error failure => exact acts _
  | ok text => exact acts _

/-- Where each move follows, a call that contributes to a service follows with its body. -/
theorem service_follows (acts : ∀ move, Follows related lost (leader.act move) (follower.act move))
    (interface : String) {body : Attempt τ String} {body' : Attempt υ String}
    (inner : Follows related lost body body') :
    Follows related lost (leader.service interface body) (follower.service interface body') := by
  -- The answer of the body decides which move comes last.
  refine (acts _).bind fun _ => inner.outcome.bind fun answer => ?_
  cases answer with
  | error failure => exact acts _
  | ok text => exact acts _

/-- Where each move follows, and related states remember and look alike, whole scripts follow. -/
theorem interpret_follows
    (acts : ∀ move, Follows related lost (leader.act move) (follower.act move))
    (memories : ∀ state other, related state other → leader.memory state = follower.memory other)
    (looks : ∀ path state other, related state other →
      leader.look path state = follower.look path other)
    (script : Script μ) :
    Follows related lost (script.interpret leader) (script.interpret follower) := by
  -- A script is put together from moves and bodies, and each way of doing so is a sequence.
  induction script with
  | done text => exact .same (.ok text)
  | fail failure => exact .same (.error failure)
  | source package name body next bodies rest =>
    exact (source_follows acts _ (bodies 0)).bind fun _ => rest
  | service interface body next bodies rest =>
    exact (service_follows acts _ (bodies 0)).bind fun _ => rest
  | error message next rest => exact (acts _).bind fun _ => rest
  | system message next rest => exact (acts _).bind fun _ => rest
  | trim body next bodies rest =>
    exact ((bodies 0).bind fun _ => .same (.ok _)).bind rest
  | collapsible body next bodies rest =>
    -- The second rendering takes place only for a text that is not blank.
    refine ((bodies 0).bind fun first => ?_).bind rest
    split
    · exact .same (.ok "")
    · exact bodies 1
  | linesShortable body width next bodies rest =>
    refine ((bodies 0).bind fun first => (Follows.same width).bind fun _ => ?_).bind rest
    split
    · exact .same (.ok _)
    · exact bodies 1
  | finalize next rest => exact (acts _).bind fun _ => rest
  | recover body next inner rest => exact inner.outcome.bind rest
  -- What is looked at or remembered is the same on both sides.
  | look path next rest => exact .read (looks path) rest
  | remembered next rest => exact .read memories rest
  | remember memory next rest => exact (acts _).bind fun _ => rest

end Script

end Stencil
