import Stencil.Proofs.Generation.Templates
import Stencil.Proofs.Pass.Collected
import Stencil.Proofs.Pass.Returned
import Stencil.Proofs.Pass.Touched

/-! Generations that a failing template aborts: they leave the manifests alone, and keep what was
committed before. -/

namespace Stencil

open Attempt

variable {σ μ : Type}

namespace Generation

/-- A generation fails if its templates do. -/
theorem run_of_failure {options : GenerationOptions} {render : String → Script μ}
    {start last : Pass FileState μ} {names : List String} {failure : Failure}
    (listed : templatesOf start.outlet.state.disk options.templates = .ok names)
    (fails : renderAll (setup options) render names start = (.error failure, last)) :
    run options render start = (.error failure, last) := by
  -- What follows the templates is not reached.
  simp only [run, generate, bind_apply, state_apply, ofExcept_apply, listed, fails]

section Unclosing

variable {setup : Setup σ} {render : String → Script μ} {names : List String}

/-- Templates that do not close the pass lead to where their moves lead, and none of these moves
closes the pass. -/
theorem renderAll_played (unclosing : ∀ name ∈ names, (render name).Uses (· ≠ .finalize))
    (pass : Pass σ μ) :
    .finalize ∉ (program render names).moves setup pass ∧
      Pass.Agree Outlet.SameButLog (Move.play setup ((program render names).moves setup pass) pass)
        (renderAll setup render names pass).2 := by
  -- The templates make up one script.
  have agree : Pass.Agree Outlet.SameButLog pass pass := ⟨⟨rfl, rfl⟩, rfl, rfl, rfl, rfl, rfl⟩
  have along := (@renderAll_program σ μ setup render names pass pass agree).2
  rw [Script.run_moves] at along
  refine ⟨fun member => ?_, along⟩
  exact Script.moves_uses setup (program_uses unclosing) pass _ member rfl

/-- While templates that do not close the pass are rendered, the sink, when it is watched, is asked
for no service file. -/
theorem renderAll_openings (unclosing : ∀ name ∈ names, (render name).Uses (· ≠ .finalize))
    {pass last : Pass σ μ} {result : Except Failure Unit}
    (rendered : renderAll setup render names pass = (result, last)) :
    ∃ seen, renderAll setup.watched render names pass.watched = (result, seen) ∧
      seen.unwatched = last ∧ ∀ event ∈ seen.outlet.openings, event.Only .sources := by
  -- A watched sink does what the sink does.
  have mirrors := Pass.mirrors_watched (renderAll_mirrors setup.watched_alike render names)
    (Pass.unwatched_watched pass)
  rw [rendered] at mirrors
  refine ⟨_, Prod.ext mirrors.1 rfl, mirrors.2, ?_⟩
  -- Each move asks for destinations of sources only.
  have renders : ∀ name ∈ names,
      Within (Pass.StaysAt .sources) ((render name).run setup.watched) := by
    intro name member
    rw [Script.run_eq_interpret]
    refine Script.interpret_within_moves (Pass.StaysAt.refl .sources) Pass.StaysAt.trans
      (fun move may => Move.run_staysAt setup ?_) (unclosing name member)
    intro same
    rw [same] at may
    exact may rfl
  have stays := renderAll_within (Pass.StaysAt.refl .sources) Pass.StaysAt.trans
    (fun _ _ => id) renders
  have unasked : pass.watched.outlet.openings = [] := by
    simp [Outlet.openings, Watched.openings, Pass.watched, Watched.start]
  exact stays pass.watched (by simp [unasked])

end Unclosing

/-- What a generation leaves behind when a template fails, told by the moves that its templates have
made up to the failure. -/
structure Aborted (options : GenerationOptions) (render : String → Script μ)
    (start last : Pass FileState μ) (names : List String) (failure : Failure)
    (moves : List (Move μ)) : Prop where
  /-- The generation fails like the template, and the pass is not closed. -/
  raised : run options render start = (.error failure, last) ∧ last.finalized = false
  /-- One of the templates fails after those before it, and those behind it may do anything. -/
  stopped : ∃ front name back between, names = front ++ name :: back ∧
    renderAll (setup options) render front start = (.ok (), between) ∧
    renderOne (setup options) render name between = (.error failure, last) ∧
    ∀ other : String → Script μ, (∀ known ∈ front ++ [name], other known = render known) →
      run options other start = (.error failure, last)
  /-- The pass is the one to which the moves lead, but for its log. -/
  played : Pass.Agree Outlet.SameButLog (Move.play (setup options) moves start) last
  /-- The sink, when it is watched, was asked for no service file. -/
  openings : ∃ seen, renderAll (setup options).watched render names start.watched =
      (.error failure, seen) ∧ seen.unwatched = last ∧
    ∀ event ∈ seen.outlet.openings, event.Only .sources
  /-- Only files to which the paths of settled sources lead are other than before. -/
  files : ∀ place, last.outlet.state.disk.fileAt? place ≠ start.outlet.state.disk.fileAt? place →
    Move.Reaches options.files options.style.suffix moves last.outlet.state.disk place
  /-- The committed sources are those for which some call has returned. -/
  committed : ∀ key, (last.sourceAt key).committed = true ↔
    key ∈ Move.returned (setup options) moves start
  /-- They were committed in the order in which their calls first returned. -/
  order : Move.commits (setup options) moves start =
    (Move.returned (setup options) moves start).eraseDups
  /-- No service is committed. -/
  services : ∀ key, (last.serviceAt key).artifact = none

/-- When templates that only use the operations of the pass are rendered and one of them fails, the
generation keeps what was committed up to the failure and does nothing else. -/
theorem aborted_of_failure (options : GenerationOptions) (render : String → Script μ) (disk : Disk)
    (diagnostics : List Diagnostic) (memory : μ) {names : List String}
    (listed : templatesOf disk options.templates = .ok names)
    (unclosing : ∀ name ∈ names, (render name).Uses (· ≠ .finalize)) {failure : Failure}
    (fails : (renderAll (setup options) render names (begin disk diagnostics memory)).1 =
      .error failure) :
    Aborted options render (begin disk diagnostics memory)
      (renderAll (setup options) render names (begin disk diagnostics memory)).2 names failure
      ((program render names).moves (setup options) (begin disk diagnostics memory)) := by
  generalize start : begin disk diagnostics memory = begun at fails ⊢
  generalize rendered : renderAll (setup options) render names begun = answer at fails ⊢
  obtain ⟨result, last⟩ := answer
  obtain rfl : result = .error failure := fails
  have found : templatesOf begun.outlet.state.disk options.templates = .ok names := by
    rw [← start]
    exact listed
  -- Nothing is committed at the start, so what is committed later is so by a move.
  have fresh : ∀ key, (begun.sourceAt key).committed = false := by
    rw [← start]
    exact fun _ => rfl
  -- The moves of the templates leave the pass open, so that no service is committed.
  obtain ⟨unfinished, along⟩ := @renderAll_played FileState μ (setup options) render names unclosing
    begun
  rw [rendered] at along
  generalize (program render names).moves (setup options) begun = moves at unfinished along ⊢
  have collected : Pass.Collected moves (Move.play (setup options) moves begun) := by
    rw [← start]
    exact Pass.collected_unclosed unfinished (FileState.start disk) diagnostics memory
  exact {
    raised := ⟨run_of_failure found rendered, along.finalized.trans collected.opened⟩
    stopped := by
      -- The failing template and those before it decide.
      obtain ⟨front, name, back, between, split, before, stops⟩ := renderAll_stops rendered
      refine ⟨front, name, back, between, split, before, stops, fun other same => ?_⟩
      exact run_of_failure found (by rw [split]; exact renderAll_congr before stops same)
    played := along
    openings := renderAll_openings unclosing rendered
    files := by
      -- A file that no move reaches keeps its bytes.
      intro place changed
      have kept := Move.play_touches (rfl : (setup options).sink = _) unfinished begun
      rw [along.outlet.state] at changed ⊢
      exact Classical.byContradiction fun spared => changed (kept.fileAt?_eq spared)
    committed := by
      intro key
      -- A source is committed by a call that has returned.
      rw [along.sourceAt, Move.play_committed]
      exact or_iff_right (by simp [fresh])
    order := by
      rw [Move.commits_eq, List.filter_eq_self.2 fun key _ => by rw [fresh]; rfl]
    services := by
      intro key
      rw [along.serviceAt, collected.uncommitted] }

/-- A generation over three templates. -/
def threeTemplates : GenerationOptions where
  templates := .ofString "templates"
  files := ⟨.ofString "src", .ofString "res", false, .utf8⟩
  style := ⟨".py", Layout.normalizer⟩

/-- A disk with three templates. -/
def templatesDisk : Disk :=
  let write := fun (disk : Disk) (name : String) =>
    (disk.writeFile (Path.join threeTemplates.templates name) .empty).2
  ["a.jinja", "b.jinja", "c.jinja"].foldl write .fresh

/-- The first template succeeds, and the second one fails inside of the body of a source, after
another source inside of it was committed. -/
def failingTemplates : String → Script Unit
  | "a.jinja" =>
    .source "p" "m" (fun _ => .service "I" (fun _ => .done "line") (.done "one")) (.done "")
  | "b.jinja" =>
    .source "p" "outer" (fun _ => .source "p" "inner" (fun _ => .done "two")
      (.source "p" "m" (fun _ => .done "again") (.fail .tooDeep))) (.done "")
  | _ => .source "p" "late" (fun _ => .done "three") (.done "")

/-- The second template takes the generation with it, and two sources stay committed. -/
theorem failing_template_aborts :
    let start : Pass FileState Unit := begin templatesDisk [] ()
    let names := ["a.jinja", "b.jinja", "c.jinja"]
    let moves := (program failingTemplates names).moves (setup threeTemplates) start
    templatesOf templatesDisk threeTemplates.templates = .ok names ∧
      (∀ name ∈ names, (failingTemplates name).Uses (· ≠ .finalize)) ∧
      Move.commits (setup threeTemplates) moves start = [⟨"p", "m"⟩, ⟨"p", "inner"⟩] ∧
      Aborted threeTemplates failingTemplates start
        (renderAll (setup threeTemplates) failingTemplates names start).2 names
        (.templateStopped "b.jinja" .recursion) moves := by
  intro start names moves
  -- The catalog sorts a list that is sorted already.
  have sorted : Catalog.namesBelow templatesDisk ("templates" :: Disk.home)
      Catalog.templateSuffixes = names := by
    rw [Catalog.namesBelow, List.mergeSort_of_pairwise (by decide +kernel)]
    decide +kernel
  have listed : templatesOf templatesDisk threeTemplates.templates = .ok names := by
    have directory : templatesDisk.pathIsDirectory threeTemplates.templates = .ok true := by
      decide +kernel
    have place : templatesDisk.find threeTemplates.templates = .ok ("templates" :: Disk.home) := by
      decide +kernel
    simp only [templatesOf, Catalog.templates, directory, place, sorted, names, listed]
  -- No template closes the pass, and the second one fails.
  have unclosing : ∀ name ∈ names, (failingTemplates name).Uses (· ≠ .finalize) := by
    simp [names, failingTemplates, Script.Uses]
  have fails : (renderAll (setup threeTemplates) failingTemplates names start).1 =
      .error (.templateStopped "b.jinja" .recursion) := by decide +kernel
  exact ⟨listed, unclosing, by decide +kernel,
    aborted_of_failure threeTemplates failingTemplates templatesDisk [] () listed unclosing fails⟩

end Generation

end Stencil
