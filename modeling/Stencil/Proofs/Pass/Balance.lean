import Stencil.Proofs.Pass.Files

/-! The books of a pass: its diagnostics, its artifacts and the paths that it created and wrote,
which every operation keeps in balance, whether it succeeds or fails. -/

namespace Stencil

/-- An artifact whose file was written in this pass. -/
def Artifact.isFresh (artifact : Artifact) : Bool := !artifact.regenerated && !artifact.collided

/-- The path of the file of an artifact. -/
def FileSettings.destination (settings : FileSettings) (suffix : String) (artifact : Artifact) :
    Path :=
  match artifact.kind with
  | .source => settings.sourcePath suffix artifact.key
  | .service => settings.servicePath artifact.key

namespace Pass

variable {σ μ : Type}

/-- The number of warnings that were reported. -/
def warnings (pass : Pass σ μ) : Nat := countSeverity .warning pass.outlet.diagnostics

/-- The paths of the artifacts whose files were written in this pass. -/
def placed (settings : FileSettings) (suffix : String) (pass : Pass σ μ) : List Path :=
  (pass.artifacts.filter Artifact.isFresh).map (settings.destination suffix)

/-- The books of a pass are in balance: every warning stands for a regenerated artifact, every error
for a collided one or for one of some others, and every written path, each of which was created
once, for a fresh artifact or for one of some strays. -/
structure Balanced (settings : FileSettings) (suffix : String) (others : Nat) (strays : List Path)
    (pass : Pass FileState μ) : Prop where
  distinct : pass.outlet.state.written.Nodup
  created : ∀ path ∈ pass.outlet.state.written, path ∈ pass.outlet.state.created
  warned : pass.warnings = pass.artifacts.countP Artifact.regenerated
  erred : pass.errors = pass.artifacts.countP Artifact.collided + others
  exclusive : ∀ artifact ∈ pass.artifacts, ¬(artifact.regenerated = true ∧ artifact.collided = true)
  placed : (pass.placed settings suffix ++ strays).Perm pass.outlet.state.written

/-- What one operation enters into the books: at most one artifact, the paths that it writes and
those of them that strayed, and errors that stand for no artifact. -/
structure Entered (settings : FileSettings) (suffix : String) (artifact? : Option Artifact)
    (others : Nat) (listed strays : List Path) (before after : Pass FileState μ) : Prop where
  artifacts : after.artifacts.Perm (artifact?.toList ++ before.artifacts)
  written : after.outlet.state.written = before.outlet.state.written ++ listed
  single : listed.Nodup
  new : ∀ path ∈ listed, path ∉ before.outlet.state.created
  created : ∀ path ∈ before.outlet.state.created ++ listed, path ∈ after.outlet.state.created
  warned : after.warnings = before.warnings + artifact?.toList.countP Artifact.regenerated
  erred : after.errors = before.errors + artifact?.toList.countP Artifact.collided + others
  exclusive : ∀ artifact ∈ artifact?, ¬(artifact.regenerated = true ∧ artifact.collided = true)
  placed : listed.Perm
    ((artifact?.toList.filter Artifact.isFresh).map (settings.destination suffix) ++ strays)

variable {settings : FileSettings} {suffix : String} {before after : Pass FileState μ}

/-- The placed paths after an operation are those of its artifact and those before it. -/
theorem Entered.placed_perm {others : Nat} {listed strays : List Path} {artifact? : Option Artifact}
    (entered : Entered settings suffix artifact? others listed strays before after) :
    (after.placed settings suffix).Perm
      ((artifact?.toList.filter Artifact.isFresh).map (settings.destination suffix) ++
        before.placed settings suffix) := by
  -- Choosing the fresh artifacts and taking their paths respects the order up to exchange.
  have fresh := entered.artifacts.filter Artifact.isFresh
  rw [List.filter_append] at fresh
  simpa only [Pass.placed, List.map_append] using fresh.map (settings.destination suffix)

/-- Books in balance stay so with what an operation enters. -/
theorem Balanced.enter {others more : Nat} {strays astray listed : List Path}
    {artifact? : Option Artifact} (balanced : Balanced settings suffix others strays before)
    (entered : Entered settings suffix artifact? more listed astray before after) :
    Balanced settings suffix (others + more) (strays ++ astray) after where
  distinct := by
    -- What was written before counts as created, and the new paths do not.
    rw [entered.written, List.nodup_append]
    refine ⟨balanced.distinct, entered.single, ?_⟩
    intro path old other new same
    exact entered.new other new (same ▸ balanced.created path old)
  created := by
    intro path member
    refine entered.created path ?_
    rw [entered.written, List.mem_append] at member
    exact List.mem_append.2 (member.imp_left (balanced.created path))
  warned := by
    rw [entered.warned, balanced.warned, entered.artifacts.countP_eq, List.countP_append]
    omega
  erred := by
    rw [entered.erred, balanced.erred, entered.artifacts.countP_eq, List.countP_append]
    omega
  exclusive := by
    intro artifact member
    rcases List.mem_append.1 (entered.artifacts.mem_iff.1 member) with new | old
    · exact entered.exclusive artifact (Option.mem_toList.1 new)
    · exact balanced.exclusive artifact old
  placed := by
    -- The paths of both sides are the same, and only have to change places.
    have listed := balanced.placed.append entered.placed.symm
    rw [entered.written]
    refine (entered.placed_perm.append_right _).trans (.trans ?_ listed)
    refine List.perm_iff_count.2 fun path => ?_
    simp only [List.count_append]
    omega

namespace Entered

/-- An operation that neither commits nor reports nor writes enters nothing. -/
theorem nothing (artifacts : after.artifacts.Perm before.artifacts)
    (state : after.outlet.state = before.outlet.state)
    (diagnostics : after.outlet.diagnostics = before.outlet.diagnostics) :
    Entered settings suffix none 0 [] [] before after where
  artifacts := artifacts
  written := by simp [state]
  single := List.nodup_nil
  new := by simp
  created := by simp [state]
  warned := by simp [warnings, diagnostics]
  erred := by simp [errors, diagnostics]
  exclusive := by simp
  placed := .refl _

/-- An error that stands for no artifact enters itself alone. -/
theorem error {message : String} (artifacts : after.artifacts = before.artifacts)
    (state : after.outlet.state = before.outlet.state)
    (diagnostics : after.outlet.diagnostics = before.outlet.diagnostics ++ [⟨.error, message⟩]) :
    Entered settings suffix none 1 [] [] before after where
  artifacts := .of_eq artifacts
  written := by simp [state]
  single := List.nodup_nil
  new := by simp
  created := by simp [state]
  warned := by simp [warnings, diagnostics, countSeverity]
  erred := by simp [errors, diagnostics, countSeverity]
  exclusive := by simp
  placed := .refl _

/-- A write that fails enters no artifact, and its path strays if it was written. -/
theorem failed {place : Place} {path : Path} {texts : List String} {failure : Failure}
    (writing : FileSettings.Writing settings place path texts before.outlet.state (.error failure)
      after.outlet.state)
    (artifacts : after.artifacts.Perm before.artifacts)
    (diagnostics : after.outlet.diagnostics = before.outlet.diagnostics) :
    ∃ strays, Entered settings suffix none 0 strays strays before after := by
  have warned : after.warnings = before.warnings := by simp [warnings, diagnostics]
  have erred : after.errors = before.errors := by simp [errors, diagnostics]
  rcases writing.listed with ⟨new, created, written⟩ | ⟨_, written, _⟩
  -- Its file was opened, and then a text had no bytes.
  · exact ⟨[path], {
      artifacts, written, warned, erred
      single := by simp
      new := by simpa using new
      created := by simp [created]
      exclusive := by simp
      placed := .refl _ }⟩
  -- Its file was not opened, but its path may count as created.
  · exact ⟨[], {
      artifacts, warned, erred
      written := by simp [written]
      single := List.nodup_nil
      new := by simp
      created := by simpa using writing.created_mono
      exclusive := by simp
      placed := .refl _ }⟩

/-- An artifact whose file was written enters its path. -/
theorem fresh (artifact : Artifact) (isFresh : artifact.isFresh = true)
    (artifacts : after.artifacts.Perm (artifact :: before.artifacts))
    (new : settings.destination suffix artifact ∉ before.outlet.state.created)
    (created : after.outlet.state.created =
      before.outlet.state.created ++ [settings.destination suffix artifact])
    (written : after.outlet.state.written =
      before.outlet.state.written ++ [settings.destination suffix artifact])
    (diagnostics : after.outlet.diagnostics = before.outlet.diagnostics) :
    Entered settings suffix (some artifact) 0 [settings.destination suffix artifact] []
      before after := by
  -- Neither kind of diagnostic has to stand for it.
  obtain ⟨unrepeated, apart⟩ : artifact.regenerated = false ∧ artifact.collided = false := by
    simpa [Artifact.isFresh] using isFresh
  exact {
    artifacts, written
    single := by simp
    new := by simpa using new
    created := by simp [created]
    warned := by simp [warnings, diagnostics, unrepeated]
    erred := by simp [errors, diagnostics, apart]
    exclusive := by simp [unrepeated]
    placed := by simp [isFresh] }

/-- An artifact that is not fresh enters the diagnostic for what its file holds: a warning if it is
regenerated, and an error if it is collided. -/
theorem stale (artifact : Artifact) {diagnostic : Diagnostic}
    (kind : artifact.regenerated = true ∧ artifact.collided = false ∧
        diagnostic.severity = .warning ∨
      artifact.regenerated = false ∧ artifact.collided = true ∧ diagnostic.severity = .error)
    (artifacts : after.artifacts.Perm (artifact :: before.artifacts))
    (written : after.outlet.state.written = before.outlet.state.written)
    (created : ∀ path ∈ before.outlet.state.created, path ∈ after.outlet.state.created)
    (diagnostics : after.outlet.diagnostics = before.outlet.diagnostics ++ [diagnostic]) :
    Entered settings suffix (some artifact) 0 [] [] before after where
  artifacts := artifacts
  written := by simp [written]
  single := List.nodup_nil
  new := by simp
  created := by simpa using created
  warned := by
    rcases kind with ⟨repeated, _, severity⟩ | ⟨repeated, _, severity⟩ <;>
      simp [warnings, diagnostics, countSeverity, repeated, severity]
  erred := by
    rcases kind with ⟨_, apart, severity⟩ | ⟨_, apart, severity⟩ <;>
      simp [errors, diagnostics, countSeverity, apart, severity]
  exclusive := by
    rcases kind with ⟨repeated, apart, _⟩ | ⟨repeated, apart, _⟩ <;> simp [repeated, apart]
  placed := by
    rcases kind with ⟨repeated, apart, _⟩ | ⟨repeated, apart, _⟩ <;>
      simp [Artifact.isFresh, repeated, apart]

end Entered

/-- Storing a source where none was committed adds its artifact, if it has one. -/
theorem artifacts_putSource (pass : Pass σ μ) {key : TargetKey} (outlet : Outlet σ)
    (target : SourceTarget) (uncommitted : (pass.sourceAt key).committed = false) :
    ({ pass with outlet, sources := pass.sources.put key target } : Pass σ μ).artifacts.Perm
      (target.artifact.toList ++ pass.artifacts) := by
  -- The target that is exchanged has no artifact, so none is lost.
  have put := pass.sources.filterMap_put SourceTarget.artifact key target fun held found => by
    simpa [sourceAt, found, SourceTarget.committed] using uncommitted
  rw [artifacts, artifacts, ← List.append_assoc]
  exact put.append_right _

/-- Storing a service where none was committed adds its artifact, if it has one. -/
theorem artifacts_putService (pass : Pass σ μ) {key : TargetKey} (outlet : Outlet σ)
    (target : ServiceTarget) (uncompleted : (pass.serviceAt key).completed = false) :
    ({ pass with outlet, services := pass.services.put key target } : Pass σ μ).artifacts.Perm
      (target.artifact.toList ++ pass.artifacts) := by
  -- It is added behind the artifacts of the sources, and moves to their front.
  have put := pass.services.filterMap_put ServiceTarget.artifact key target fun held found => by
    simpa [serviceAt, found, ServiceTarget.completed] using uncompleted
  rw [artifacts, artifacts]
  refine (put.append_left _).trans ?_
  rw [← List.append_assoc, ← List.append_assoc]
  exact List.perm_append_comm.append_right _

variable {setup : Setup FileState}

/-- Settling a source enters its artifact if it is committed now, and an error if it was committed
before; only if it fails, a path can stray. -/
theorem settleSource_entered (files : setup.sink = settings.sink) (key : TargetKey) (text : String)
    (pass : Pass FileState μ) :
    ∃ artifact? listed strays,
      Entered settings setup.style.suffix artifact? (if (pass.sourceAt key).committed then 1 else 0)
        listed strays pass (settleSource setup key text pass).2 ∧
      ((settleSource setup key text pass).1 = .ok () → strays = []) := by
  obtain ⟨sink, style, look⟩ := setup
  subst files
  have settling := settleSource_settling ⟨settings.sink, style, look⟩ key text pass
  generalize settleSource ⟨settings.sink, style, look⟩ key text pass = answer at settling ⊢
  obtain ⟨result, after⟩ := answer
  cases settling with
  | repeated committed =>
    -- Its text is discarded, and all that is left of the call is the error.
    rw [if_pos committed]
    exact ⟨none, [], [], .error rfl rfl rfl, fun _ => rfl⟩
  | unformatted uncommitted =>
    -- The text was added to the target, but no file was opened.
    rw [if_neg (by simp [uncommitted])]
    exact ⟨none, [], [], .nothing (artifacts_putSource pass _ _ uncommitted) rfl rfl, fun _ => rfl⟩
  | failed uncommitted _ emitted =>
    rw [if_neg (by simp [uncommitted])]
    -- Whatever it failed for, its text was not written as a whole.
    cases SourceTarget.emission_of_emit emitted with
    | failed wrote =>
      obtain ⟨outcome, state, log, same, writing⟩ := FileSettings.writeTo_writing settings .sources
        key.package (key.name ++ style.suffix) _ pass.outlet
      rw [wrote] at same
      cases same
      have stores := artifacts_putSource pass ⟨state, pass.outlet.diagnostics, log⟩
        ⟨(pass.sourceAt key).content ++ text, none⟩ uncommitted
      obtain ⟨strays, entered⟩ := Entered.failed writing stores rfl
      exact ⟨none, strays, strays, entered, nofun⟩
  | committed uncommitted _ emitted =>
    rw [if_neg (by simp [uncommitted])]
    have emission := SourceTarget.emission_of_emit emitted
    obtain ⟨_, writing⟩ := emission.wrote
    have grown := writing.created_mono
    -- What became of the file says which artifact is entered.
    cases emission.onFiles with
    | fresh resolved new =>
      subst resolved
      exact ⟨_, _, _, .fresh ⟨key, .source, false, false⟩ rfl
        (artifacts_putSource pass _ _ uncommitted) new rfl rfl rfl, fun _ => rfl⟩
    | regenerated =>
      exact ⟨_, _, _, .stale ⟨key, .source, true, false⟩ (Or.inl ⟨rfl, rfl, rfl⟩)
        (artifacts_putSource pass _ _ uncommitted) rfl grown rfl, fun _ => rfl⟩
    | collided =>
      exact ⟨_, _, _, .stale ⟨key, .source, false, true⟩ (Or.inr ⟨rfl, rfl, rfl⟩)
        (artifacts_putSource pass _ _ uncommitted) rfl grown rfl, fun _ => rfl⟩

/-- Committing a service enters its artifact if that succeeds, and otherwise its path can stray. -/
theorem completeService_entered (files : setup.sink = settings.sink) (suffix : String)
    (key : TargetKey) (pass : Pass FileState μ) :
    ∃ artifact? listed strays,
      Entered settings suffix artifact? 0 listed strays pass (completeService setup key pass).2 ∧
      ((completeService setup key pass).1 = .ok () → strays = []) := by
  have committing := completeService_committing files key pass
  generalize completeService setup key pass = answer at committing ⊢
  obtain ⟨result, after⟩ := answer
  cases committing with
  | refused => exact ⟨none, [], [], .nothing (.refl _) rfl rfl, fun _ => rfl⟩
  -- A manifest that was not written enters no artifact.
  | @failed _ _ state log _ writing =>
    have same : ({ pass with outlet := ⟨state, pass.outlet.diagnostics, log⟩ } :
      Pass FileState μ).artifacts.Perm pass.artifacts := .refl _
    obtain ⟨strays, entered⟩ := Entered.failed writing same rfl
    exact ⟨none, strays, strays, entered, nofun⟩
  | written uncompleted writing =>
    -- A manifest that was written as a whole was opened as a new file of the pass.
    rcases writing.listed with ⟨new, created, written⟩ | ⟨unfinished, _⟩
    · exact ⟨_, _, _, .fresh ⟨key, .service, false, false⟩ rfl
        (artifacts_putService pass _ _ uncompleted) new created written rfl, fun _ => rfl⟩
    · exact absurd rfl unfinished

/-- Committing services keeps the books in balance, and no path strays if all commits succeed. -/
theorem Balanced.completeServices (files : setup.sink = settings.sink) {suffix : String}
    {others : Nat} {strays : List Path} (keys : List TargetKey) {pass : Pass FileState μ}
    (balanced : Balanced settings suffix others strays pass) :
    ∃ astray, Balanced settings suffix others (strays ++ astray)
        (completeServices setup keys pass).2 ∧
      ((completeServices setup keys pass).1 = .ok () → astray = []) := by
  -- Each commit enters its own, and the first failure ends the row.
  induction keys generalizing pass strays with
  | nil => exact ⟨[], by simpa [Pass.completeServices] using balanced, fun _ => rfl⟩
  | cons key rest ih =>
    obtain ⟨artifact?, listed, first, entered, stays⟩ :=
      completeService_entered files suffix key pass
    have here := balanced.enter entered
    rw [Pass.completeServices, Attempt.bind_apply]
    rcases done : completeService setup key pass with ⟨failure | _, between⟩
    · rw [done] at here
      exact ⟨first, here, nofun⟩
    -- A first commit that succeeds leaves the others to the induction.
    · rw [done] at here stays
      obtain ⟨later, last, unstrayed⟩ := ih here
      rw [List.append_assoc] at last
      exact ⟨first ++ later, last, fun succeeds => by rw [stays rfl, unstrayed succeeds]; rfl⟩

/-- Closing a pass keeps its books in balance, and no path strays if that succeeds. -/
theorem Balanced.finalize (files : setup.sink = settings.sink) {suffix : String} {others : Nat}
    {strays : List Path} {pass : Pass FileState μ}
    (balanced : Balanced settings suffix others strays pass) :
    ∃ astray, Balanced settings suffix others (strays ++ astray) (Pass.finalize setup pass).2 ∧
      ((Pass.finalize setup pass).1.isOk = true → astray = []) := by
  -- Whether a pass counts as closed is not in the books.
  have closed : Balanced settings suffix others strays { pass with finalized := true } :=
    ⟨balanced.distinct, balanced.created, balanced.warned, balanced.erred, balanced.exclusive,
      balanced.placed⟩
  obtain ⟨astray, last, stays⟩ := closed.completeServices files pass.services.keys
  have closing := finalize_closing setup pass
  generalize Pass.finalize setup pass = answer at closing ⊢
  obtain ⟨result, after⟩ := answer
  -- Closing is committing the services, unless the pass is closed already.
  cases closing with
  | refused => exact ⟨[], by simpa using balanced, fun _ => rfl⟩
  | failed _ committed =>
    rw [committed] at last
    exact ⟨astray, last, nofun⟩
  | closed _ committed =>
    rw [committed] at last stays
    exact ⟨astray, ⟨last.distinct, last.created, last.warned, last.erred, last.exclusive,
      last.placed⟩, fun _ => stays rfl⟩

/-- Requesting a source adds no artifact. -/
theorem artifacts_requestSource (pass : Pass σ μ) (outlet : Outlet σ) (key : TargetKey) :
    ({ pass with outlet, sources := requested pass.sources key .fresh } : Pass σ μ).artifacts.Perm
      pass.artifacts := by
  rcases requested_cases pass.sources key .fresh with ⟨same, _⟩ | ⟨put, absent⟩
  · rw [same]
    exact .refl _
  -- A fresh target is not committed, and neither is one that is not there.
  · rw [put]
    exact artifacts_putSource pass outlet .fresh (by simp [sourceAt, absent]; rfl)

/-- Requesting a service adds no artifact. -/
theorem artifacts_requestService (pass : Pass σ μ) (outlet : Outlet σ) (key : TargetKey) :
    ({ pass with outlet, services := requested pass.services key .fresh } : Pass σ μ).artifacts.Perm
      pass.artifacts := by
  -- A service that is known is as before, and a new one has no artifact.
  rcases requested_cases pass.services key .fresh with ⟨same, _⟩ | ⟨put, absent⟩
  · rw [same]
    exact .refl _
  · rw [put]
    exact artifacts_putService pass outlet .fresh (by simp [serviceAt, absent]; rfl)

end Pass

namespace Move

variable {σ μ : Type}

/-- Tests whether a move settles a source that was committed before. -/
def repeats (pass : Pass σ μ) : Move μ → Bool
  | .settleSource key _ => (pass.sourceAt key).committed
  | _ => false

/-- Tests whether a move reports an error of its own. -/
def isError : Move μ → Bool
  | .error _ => true
  | _ => false

/-- The number of settlings in a row of moves that found their source committed. -/
def repetitions (setup : Setup σ) : List (Move μ) → Pass σ μ → Nat
  | [], _ => 0
  | move :: rest, pass =>
    (if move.repeats pass then 1 else 0) + repetitions setup rest (move.run setup pass).2

end Move

namespace Pass

open Move

variable {μ : Type} {settings : FileSettings} {setup : Setup FileState}

/-- Every move keeps the books in balance; an error stands for no artifact if the move repeats a
settling or reports it itself, and no path strays if the move succeeds. -/
theorem Balanced.run (files : setup.sink = settings.sink) {others : Nat} {strays : List Path}
    {pass : Pass FileState μ} (balanced : Balanced settings setup.style.suffix others strays pass)
    (move : Move μ) :
    ∃ astray, Balanced settings setup.style.suffix
        (others + ((if move.repeats pass then 1 else 0) + if move.isError then 1 else 0))
        (strays ++ astray) (move.run setup pass).2 ∧
      ((move.run setup pass).1 = .ok () → astray = []) := by
  -- Except for the sources and the close of the pass, a move enters an error at most.
  have idle : ∀ {result : Except Failure Unit} {after : Pass FileState μ},
      after.artifacts.Perm pass.artifacts → after.outlet.state = pass.outlet.state →
      after.outlet.diagnostics = pass.outlet.diagnostics →
      ∃ astray, Balanced settings setup.style.suffix (others + 0) (strays ++ astray) after ∧
        (result = .ok () → astray = []) := fun artifacts state diagnostics =>
    ⟨[], balanced.enter (.nothing artifacts state diagnostics), fun _ => rfl⟩
  cases move with
  | settleSource key text =>
    obtain ⟨artifact?, listed, astray, entered, stays⟩ := settleSource_entered files key text pass
    exact ⟨astray, balanced.enter entered, stays⟩
  -- The close commits the services, whose paths can stray.
  | finalize =>
    obtain ⟨astray, last, stays⟩ := balanced.finalize files
    rw [run_finalize]
    -- The move forgets the artifacts with which the pass answers, and fails when it fails.
    refine ⟨astray, last, fun succeeds => stays ?_⟩
    cases closed : (Pass.finalize setup pass).1 with
    | error failure => simp [closed, Except.map] at succeeds
    | ok artifacts => rfl
  | error message =>
    exact ⟨[], balanced.enter (.error rfl rfl rfl), fun _ => rfl⟩
  | requestSource key =>
    obtain ⟨log, result⟩ := run_requestSource setup pass key
    -- A closed pass refuses the request, and an open one has at most a fresh target more.
    by_cases closed : pass.finalized = true
    · rw [result, if_pos closed]
      exact idle (.refl _) rfl rfl
    · rw [result, if_neg closed]
      exact idle (artifacts_requestSource pass _ key) rfl rfl
  | requestService interface =>
    obtain ⟨log, result⟩ := run_requestService setup pass interface
    by_cases closed : pass.finalized = true
    · rw [result, if_pos closed]
      exact idle (.refl _) rfl rfl
    · rw [result, if_neg closed]
      exact idle (artifacts_requestService pass _ _) rfl rfl
  | contribute interface text =>
    rw [Move.run, appendService_apply]
    by_cases completed : (pass.serviceAt (serviceKey interface)).completed = true
    · rw [if_pos completed]
      exact idle (.refl _) rfl rfl
    -- A service that takes lines has no artifact to take over.
    · have uncompleted : (pass.serviceAt (serviceKey interface)).completed = false := by
        simpa using completed
      have unset : (pass.serviceAt (serviceKey interface)).artifact = none := by
        simpa [ServiceTarget.completed] using uncompleted
      rw [if_neg completed, unset]
      exact idle (artifacts_putService pass _ _ uncompleted) rfl rfl
  | dropSource | dropService | system | remember => exact idle (.refl _) rfl rfl

/-- A row of moves keeps the books in balance, and no path strays if it goes smoothly. -/
theorem Balanced.play (files : setup.sink = settings.sink) (moves : List (Move μ)) {others : Nat}
    {strays : List Path} {pass : Pass FileState μ}
    (balanced : Balanced settings setup.style.suffix others strays pass) :
    ∃ astray, Balanced settings setup.style.suffix
        (others + (repetitions setup moves pass + moves.countP isError)) (strays ++ astray)
        (Move.play setup moves pass) ∧
      (Smooth setup moves pass → astray = []) := by
  -- The errors and the strays of the first move come before those of the others.
  induction moves generalizing pass others strays with
  | nil => exact ⟨[], by simpa [repetitions, Move.play] using balanced, fun _ => rfl⟩
  | cons move rest ih =>
    obtain ⟨first, here, stays⟩ := balanced.run files move
    obtain ⟨later, last, unstrayed⟩ := ih here
    refine ⟨first ++ later, ?_, fun smooth => ?_⟩
    · have sum : others + ((if move.repeats pass then 1 else 0) + if move.isError then 1 else 0) +
          (repetitions setup rest (move.run setup pass).2 + rest.countP isError) =
          others + (repetitions setup (move :: rest) pass + (move :: rest).countP isError) := by
        rw [repetitions, List.countP_cons]
        omega
      rw [sum, List.append_assoc] at last
      exact last
    -- A row that goes smoothly has a smooth first move and smooth others.
    · obtain ⟨succeeds, others⟩ := smooth_cons.1 smooth
      rw [stays succeeds, unstrayed others]
      rfl

/-- The books of a pass are in balance at its start. -/
theorem balanced_start (settings : FileSettings) (suffix : String) (disk : Disk) (memory : μ) :
    Balanced settings suffix 0 [] (.start (.start disk) [] memory) :=
  ⟨List.nodup_nil, nofun, rfl, rfl, nofun, .refl _⟩

end Pass

end Stencil
