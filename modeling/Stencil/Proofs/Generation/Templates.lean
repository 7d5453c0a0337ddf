import Stencil.Generation
import Stencil.Proofs.Script.Alike
import Stencil.Proofs.Script.Uses

/-! Templates one after the other: where rendering them stops, what each of them may change, and that
they make up one script but for what the log says about them. -/

namespace Stencil

open Attempt

variable {σ υ μ : Type}

namespace Generation

variable {setup : Setup σ} {render : String → Script μ}

/-- A template is rendered by its script, once the log says so; a failure is given its name. -/
theorem renderOne_apply (setup : Setup σ) (render : String → Script μ) (name : String)
    (pass : Pass σ μ) :
    renderOne setup render name pass =
      match (render name).run setup
        (Pass.note (.debug "codegen.engine" s!"Rendering template {name}") pass).2 with
      | (.ok text, after) => noteLeftover name text after
      | (.error failure, after) => (.error (blame name failure), after) := by
  -- The note cannot fail, and the outcome of the script decides.
  have noted : Pass.note (.debug "codegen.engine" s!"Rendering template {name}") pass =
      (.ok (), (Pass.note (.debug "codegen.engine" s!"Rendering template {name}") pass).2) := rfl
  rw [renderOne, bind_of_ok noted, bind_apply, outcome_apply]
  generalize (render name).run setup _ = answer
  obtain ⟨failure | text, after⟩ := answer <;> rfl

/-- Noting that text is left over is about the log alone. -/
theorem noteLeftover_apply (name text : String) (pass : Pass σ μ) :
    ∃ log, noteLeftover name text pass =
      (.ok (), { pass with outlet := { pass.outlet with log } }) := by
  -- Only a text that is not blank is noted.
  unfold noteLeftover
  split
  · exact ⟨pass.outlet.log, rfl⟩
  · exact ⟨pass.outlet.log ++ [_], rfl⟩

/-- Rendering a template stays within a relation that its script and the log stay within. -/
theorem renderOne_within {related : Pass σ μ → Pass σ μ → Prop} (refl : ∀ pass, related pass pass)
    (trans : ∀ first second third, related first second → related second third →
      related first third)
    (notes : ∀ entry, Within related (Pass.note entry : Attempt (Pass σ μ) Unit)) {name : String}
    (renders : Within related ((render name).run setup)) :
    Within related (renderOne setup render name) := by
  -- A note comes first, and another one may come last.
  refine (notes _).bind trans fun _ => Within.bind trans renders fun answer => ?_
  cases answer with
  | error failure => exact refl
  | ok text =>
    show Within related (noteLeftover name text)
    unfold noteLeftover
    split
    · exact refl
    · exact notes _

/-- Rendering templates in order stays within a relation that their scripts and the log stay
within. -/
theorem renderAll_within {related : Pass σ μ → Pass σ μ → Prop} (refl : ∀ pass, related pass pass)
    (trans : ∀ first second third, related first second → related second third →
      related first third)
    (notes : ∀ entry, Within related (Pass.note entry : Attempt (Pass σ μ) Unit))
    {names : List String} (renders : ∀ name ∈ names, Within related ((render name).run setup)) :
    Within related (renderAll setup render names) := by
  induction names with
  | nil => exact refl
  -- The first template stays within the relation, and so do the others behind it.
  | cons name rest ih =>
    have first := renderOne_within refl trans notes (renders name List.mem_cons_self)
    exact first.bind trans fun _ =>
      ih fun other member => renders other (List.mem_cons_of_mem _ member)

/-- On setups that are alike, rendering templates mirrors itself. -/
theorem renderAll_mirrors {related : Outlet σ → Outlet υ → Prop} {first : Setup σ}
    {second : Setup υ} (alike : Setup.Alike related first second) (render : String → Script μ)
    (names : List String) :
    Mirrors (Pass.Agree related) (renderAll first render names)
      (renderAll second render names) := by
  have notes : ∀ entry, Mirrors (Pass.Agree (μ := μ) related) (Pass.note entry)
      (Pass.note entry) := fun entry => Pass.onOutlet_mirrors (alike.note entry)
  induction names with
  | nil => exact .same (.ok ())
  | cons name rest ih =>
    refine Follows.bind ?_ fun _ => ih
    -- Each template begins with a note, and ends with one if text is left over.
    refine (notes _).bind fun _ =>
      ((render name).run_mirrors alike).outcome.bind fun answer => ?_
    cases answer with
    | error failure => exact .same (.error _)
    | ok text =>
      show Mirrors _ (noteLeftover name text) (noteLeftover name text)
      unfold noteLeftover
      split
      · exact .same (.ok ())
      · exact notes _

/-- Where rendering templates fails, those before some template have rendered, this template fails,
and those behind it play no role. -/
theorem renderAll_stops {names : List String} {pass last : Pass σ μ} {failure : Failure}
    (fails : renderAll setup render names pass = (.error failure, last)) :
    ∃ front name back between, names = front ++ name :: back ∧
      renderAll setup render front pass = (.ok (), between) ∧
      renderOne setup render name between = (.error failure, last) := by
  -- Either the first template fails, or one of the others does after it.
  induction names generalizing pass with
  | nil => cases fails
  | cons name rest ih =>
    rw [renderAll, bind_apply] at fails
    rcases first : renderOne setup render name pass with ⟨refusal | _, middle⟩
    · rw [first] at fails
      cases fails
      exact ⟨[], name, rest, pass, rfl, rfl, first⟩
    -- What comes before the failing template begins with the first one.
    · rw [first] at fails
      obtain ⟨front, other, back, between, split, before, stops⟩ := ih fails
      refine ⟨name :: front, other, back, between, by rw [split]; rfl, ?_, stops⟩
      rw [renderAll, bind_of_ok first]
      exact before

/-- Templates that fail do so in the same way if only templates behind the failing one are others. -/
theorem renderAll_congr {other : String → Script μ} {front back : List String} {name : String}
    {pass between last : Pass σ μ} {failure : Failure}
    (before : renderAll setup render front pass = (.ok (), between))
    (stops : renderOne setup render name between = (.error failure, last))
    (same : ∀ known ∈ front ++ [name], other known = render known) :
    renderAll setup other (front ++ name :: back) pass = (.error failure, last) := by
  induction front generalizing pass with
  | nil =>
    -- The failing template comes first.
    cases before
    have here : renderOne setup other name between = (.error failure, last) := by
      rw [← stops, renderOne, renderOne, same name (by simp)]
    rw [List.nil_append, renderAll, bind_apply, here]
  | cons first rest ih =>
    -- A template that comes before the failing one has rendered and does so again.
    obtain ⟨_, middle, here, later⟩ := bind_eq_ok.1 before
    have again : renderOne setup other first pass = (.ok (), middle) := by
      rw [← here, renderOne, renderOne, same first (by simp)]
    rw [List.cons_append, renderAll, bind_of_ok again]
    exact ih later fun known member => same known (List.mem_cons_of_mem _ member)

end Generation

/-- Two outlets are the same but for their logs. -/
structure Outlet.SameButLog (outlet other : Outlet σ) : Prop where
  state : other.state = outlet.state
  diagnostics : other.diagnostics = outlet.diagnostics

/-- No operation of a sink depends on the log. -/
theorem Setup.alike_butLog (setup : Setup σ) : Setup.Alike Outlet.SameButLog setup setup where
  style := rfl
  look path outlet other same := by rw [same.state]
  note _ := Mirrors.change fun _ _ same => ⟨same.state, same.diagnostics⟩
  report _ _ := Mirrors.change fun _ _ same => ⟨same.state, by rw [same.diagnostics]⟩
  write place package name texts := by
    refine Mirrors.of_agree fun outlet other same => ?_
    obtain ⟨log, wrote⟩ := setup.sink.writeTo_apply place package name texts outlet
    obtain ⟨log', wrote'⟩ := setup.sink.writeTo_apply place package name texts other
    rw [wrote, wrote', same.state, same.diagnostics]
    -- What is written depends on the state alone, whether the destination opens or not.
    rcases setup.sink.openWrite place package name outlet.state with ⟨failure | stream, opened⟩ <;>
      exact ⟨rfl, rfl, rfl⟩
  read place package name := by
    refine Mirrors.of_agree fun outlet other same => ?_
    rw [Sink.readFrom_apply, Sink.readFrom_apply, same.state]
    rcases setup.sink.openRead place package name outlet.state with ⟨failure | stream, opened⟩ <;>
      exact ⟨rfl, rfl, same.diagnostics⟩

namespace Generation

variable {setup : Setup σ} {render : String → Script μ}

/-- Templates as one script: each of them goes on from where the one before it ended. -/
def program (render : String → Script μ) : List String → Script μ
  | [] => .done ""
  | name :: rest => .trim (fun _ => render name) fun _ => program render rest

/-- The script of some templates is that of the first one, and then that of the others. -/
theorem program_run (setup : Setup σ) (render : String → Script μ) (name : String)
    (rest : List String) :
    (program render (name :: rest)).run setup =
      (render name).run setup >>= fun _ => (program render rest).run setup := by
  -- The text of a template is dropped, whatever is made of it.
  simp only [program, Script.run, Shaping.trim, bind_assoc, pure_bind]

/-- The script of some templates uses what they use. -/
theorem program_uses {allowed : Move μ → Prop} {names : List String}
    (uses : ∀ name ∈ names, (render name).Uses allowed) : (program render names).Uses allowed := by
  induction names with
  | nil => trivial
  -- The script is the first template with the others behind it.
  | cons name rest ih =>
    exact ⟨fun _ => uses name List.mem_cons_self, fun _ =>
      ih fun other member => uses other (List.mem_cons_of_mem _ member)⟩

/-- Rendering templates does what their script does, but for the log and for the name that is given
to a failure. -/
theorem renderAll_program (names : List String) {pass other : Pass σ μ}
    (agree : Pass.Agree Outlet.SameButLog pass other) :
    (renderAll setup render names other).1.isOk = ((program render names).run setup pass).1.isOk ∧
      Pass.Agree Outlet.SameButLog ((program render names).run setup pass).2
        (renderAll setup render names other).2 := by
  -- A note in the log makes no difference.
  have noted : ∀ entry {pass other : Pass σ μ}, Pass.Agree Outlet.SameButLog pass other →
      Pass.Agree Outlet.SameButLog pass (Pass.note entry other).2 := fun entry _ _ agree =>
    { agree with outlet := ⟨agree.outlet.state, agree.outlet.diagnostics⟩ }
  induction names generalizing pass other with
  | nil => exact ⟨rfl, agree⟩
  | cons name rest ih =>
    have begun := noted (.debug "codegen.engine" s!"Rendering template {name}") agree
    have along := ((render name).run_mirrors setup.alike_butLog).agree begun
    rw [program_run, renderAll, bind_apply, bind_apply, renderOne_apply]
    generalize (render name).run setup pass = answer at along ⊢
    generalize (render name).run setup (Pass.note _ other).2 = reply at along ⊢
    obtain ⟨result, after⟩ := answer
    obtain ⟨result', after'⟩ := reply
    obtain ⟨same, along⟩ := along
    obtain rfl : result' = result := same
    -- Behind a template that fails, neither of them goes on.
    cases result' with
    | error failure => exact ⟨rfl, along⟩
    | ok text =>
      obtain ⟨log, left⟩ := noteLeftover_apply name text after'
      simp only [left]
      exact ih { along with outlet := ⟨along.outlet.state, along.outlet.diagnostics⟩ }

end Generation

end Stencil
