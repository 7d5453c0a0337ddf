import Stencil.Proofs.Pass.Collected
import Stencil.Proofs.Pass.Manifests
import Stencil.Proofs.Pass.ServicePath
import Stencil.Proofs.Spelled

/-! Proper moves: their paths are plain, so that each of them writes to a file of its own, and all
others keep their content. -/

namespace Stencil

/-- A path without parents leads to the same content as before if its place is not touched. -/
theorem Disk.Keeps.contentAt? {touched : Location → Prop} {before after : Disk} {path : Path}
    (kept : Disk.Keeps touched before after) (plain : ".." ∉ path.parts)
    (spared : ∀ (disk : Disk) place, disk.find path = .ok place → ¬touched place) :
    after.contentAt? path = before.contentAt? path := by
  -- Neither is a file lost nor a new one found.
  refine Option.ext fun content => ?_
  rw [contentAt?_eq_some, contentAt?_eq_some]
  exact ⟨fun held => kept.readFile_back plain held (spared after),
    fun held => kept.readFile held (spared before)⟩

/-- A path that is not created keeps its content; what counts as created goes on doing so. -/
structure FileState.Spares (path : Path) (before after : FileState) : Prop where
  created : ∀ other ∈ before.created, other ∈ after.created
  content : path ∉ after.created → after.disk.contentAt? path = before.disk.contentAt? path

namespace FileState.Spares

variable {path : Path} {first second third : FileState}

/-- A state spares every path. -/
theorem refl (path : Path) (state : FileState) : Spares path state state :=
  ⟨fun _ => id, fun _ => rfl⟩

/-- What two steps spare, both together spare. -/
theorem trans (left : Spares path first second) (right : Spares path second third) :
    Spares path first third :=
  ⟨fun other member => right.created other (left.created other member), fun absent =>
    (right.content absent).trans (left.content fun member => absent (right.created path member))⟩

end FileState.Spares

namespace FileSettings.Writing

variable {settings : FileSettings} {place : Place} {path other : Path} {texts : List String}
  {state after : FileState} {result : Except Failure Unit}

/-- Writing to a plain path keeps the content of another one. -/
theorem contentAt? (writing : Writing settings place path texts state result after)
    (plain : path.Plain) (flat : other.Plain) (apart : other = path → path ∉ after.created) :
    after.disk.contentAt? other = state.disk.contentAt? other := by
  -- The place that is touched is that of the path, which counts as created from then on.
  refine writing.keeps.contentAt? flat.down fun disk location found touches => ?_
  refine apart (Disk.plain_injective flat plain found touches.found) ?_
  rw [touches.created]
  simp

/-- Writing to a plain path spares all plain paths. -/
theorem spares (writing : Writing settings place path texts state result after)
    (plain : path.Plain) (flat : other.Plain) : FileState.Spares other state after := by
  -- A path that is not created is another one than the path that is written.
  exact ⟨writing.created_mono, fun absent =>
    writing.contentAt? plain flat fun same => same ▸ absent⟩

end FileSettings.Writing

namespace Move

variable {μ : Type}

/-- A move whose source has a plain path, or whose interface has a name that can name a node. -/
def Proper (settings : FileSettings) (suffix : String) : Move μ → Prop
  | .settleSource key _ => (settings.sourcePath suffix key).Plain
  | .requestService interface | .contribute interface _ => isNodeName interface = true
  | _ => True

instance (settings : FileSettings) (suffix : String) :
    (move : Move μ) → Decidable (move.Proper settings suffix)
  | .settleSource key _ => inferInstanceAs (Decidable (settings.sourcePath suffix key).Plain)
  | .requestService interface | .contribute interface _ =>
    inferInstanceAs (Decidable (isNodeName interface = true))
  | .requestSource _ | .dropSource _ _ | .dropService _ _ | .error _ | .system _ | .finalize
  | .remember _ => .isTrue trivial

/-- A proper move that asks for a service names an interface that can name a node. -/
theorem Proper.named {settings : FileSettings} {suffix interface : String} {move : Move μ}
    (proper : move.Proper settings suffix) (serves : move.Serves interface) :
    isNodeName interface = true := by
  -- Both ways to ask for a service are proper for the same reason.
  rcases serves with rfl | ⟨text, rfl⟩ <;> exact proper

variable {settings : FileSettings} {setup : Setup FileState}

/-- A proper move that does not close the pass spares all plain paths. -/
theorem Proper.spares (files : setup.sink = settings.sink) {move : Move μ}
    (proper : move.Proper settings setup.style.suffix) (unclosed : move ≠ .finalize) {path : Path}
    (flat : path.Plain) (pass : Pass FileState μ) :
    FileState.Spares path pass.outlet.state (move.run setup pass).2.outlet.state := by
  by_cases settles : ∃ key text, move = .settleSource key text
  · obtain ⟨key, text, rfl⟩ := settles
    -- A settling that writes, writes to the path of its source.
    show FileState.Spares path _ (Pass.settleSource setup key text pass).2.outlet.state
    rcases Pass.settleSource_wrote files key text pass with same | ⟨shown, outcome, writing⟩
    · rw [same]
      exact .refl _ _
    · exact writing.spares proper flat
  · rw [run_state setup pass (fun key text same => settles ⟨key, text, same⟩) unclosed]
    exact .refl _ _

/-- A row of proper moves that does not close the pass spares all plain paths. -/
theorem spares_play (files : setup.sink = settings.sink) {moves : List (Move μ)}
    (proper : ∀ move ∈ moves, move.Proper settings setup.style.suffix)
    (unclosed : .finalize ∉ moves) {path : Path} (flat : path.Plain) (pass : Pass FileState μ) :
    FileState.Spares path pass.outlet.state (play setup moves pass).outlet.state := by
  -- Each move spares the path in turn.
  induction moves generalizing pass with
  | nil => exact .refl _ _
  | cons move rest ih =>
    rw [List.mem_cons, not_or] at unclosed
    have here := (proper move List.mem_cons_self).spares files (Ne.symm unclosed.1) flat pass
    exact here.trans (ih (fun other member => proper other (List.mem_cons_of_mem _ member))
      unclosed.2 _)

end Move

namespace Pass

variable {μ : Type} {settings : FileSettings} {setup : Setup FileState}

/-- Committing a service keeps the content of every plain path but its own. -/
theorem completeService_contentAt? (files : setup.sink = settings.sink) {key : TargetKey}
    (plain : (settings.servicePath key).Plain) {path : Path} (flat : path.Plain)
    (apart : path ≠ settings.servicePath key) (pass : Pass FileState μ) :
    (completeService setup key pass).2.outlet.state.disk.contentAt? path =
      pass.outlet.state.disk.contentAt? path := by
  have committing := completeService_committing files key pass
  generalize completeService setup key pass = answer at committing ⊢
  obtain ⟨result, after⟩ := answer
  -- It writes to its own path, if it writes at all.
  cases committing with
  | refused => rfl
  | failed _ writing => exact writing.contentAt? plain flat fun same => absurd same apart
  | written _ writing => exact writing.contentAt? plain flat fun same => absurd same apart

/-- Services of proper interfaces spare each other's files. -/
theorem spared_of_plain (files : setup.sink = settings.sink) {own : TargetKey}
    (flat : (settings.servicePath own).Plain) {keys : List TargetKey}
    (plain : ∀ key ∈ keys, (settings.servicePath key).Plain)
    (apart : ∀ key ∈ keys, key ≠ own → settings.servicePath own ≠ settings.servicePath key)
    (pass : Pass FileState μ) : Spared setup (settings.servicePath own) own keys pass := by
  -- Each service but its own is committed to another file.
  induction keys generalizing pass with
  | nil => trivial
  | cons key rest ih =>
    have later := ih (fun other member => plain other (List.mem_cons_of_mem _ member))
      (fun other member => apart other (List.mem_cons_of_mem _ member))
    refine ⟨fun different => ?_, later _⟩
    exact completeService_contentAt? files (plain key List.mem_cons_self) flat
      (apart key List.mem_cons_self different) pass

end Pass

end Stencil
