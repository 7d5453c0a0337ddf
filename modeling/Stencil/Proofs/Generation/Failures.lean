import Stencil.Proofs.Generation.Templates
import Stencil.Proofs.NullByte
import Stencil.Proofs.Pass.Files

/-! Failures of a generation: which of them are failures of generation itself, and which ones come
out as they are, on any sink. -/

namespace Stencil

open Attempt

/-- A failure that is none of generation itself. -/
def Failure.Foreign (failure : Failure) : Prop := failure.kind.isGeneration = false

instance (failure : Failure) : Decidable failure.Foreign :=
  inferInstanceAs (Decidable (failure.kind.isGeneration = false))

/-- A result is a failure that is none of generation itself. -/
def Escapes {α : Type} : Except Failure α → Prop
  | .ok _ => False
  | .error failure => failure.Foreign

instance {α : Type} (result : Except Failure α) : Decidable (Escapes result) :=
  match result with
  | .ok _ => inferInstanceAs (Decidable False)
  | .error failure => inferInstanceAs (Decidable failure.Foreign)

/-- What escapes is some failure that is none of generation. -/
theorem escapes_iff {α : Type} {result : Except Failure α} :
    Escapes result ↔ ∃ failure, result = .error failure ∧ failure.Foreign := by
  cases result with
  | ok value => exact iff_of_false id (by simp)
  | error failure => simp [Escapes]

variable {σ μ : Type}

namespace ServiceTarget

/-- A service that is not committed is refused with a failure: its entries, merged with those that
can be read back, are not written, and the failure is neither one of the system nor one of
generation. -/
structure Refused (sink : Sink σ) (key : TargetKey) (target : ServiceTarget) (outlet : Outlet σ)
    (failure : Failure) : Prop where
  uncompleted : target.completed = false
  unwritten : ∃ existing between, existingEntries sink key outlet = (.ok existing, between) ∧
    (sink.writeTo .classes key.package key.name
      ((Manifest.merge existing target.lines).map Manifest.line) between).1 = .error failure
  unconverted : failure.kind.isSystem = false
  foreign : failure.Foreign

/-- Entries are emitted with a failure that is none of generation exactly if they are written with
it, and it is none of the system either. -/
theorem emit_foreign (sink : Sink σ) (key : TargetKey) (entries : List String) (outlet : Outlet σ)
    (failure : Failure) :
    (emit sink key entries outlet).1 = .error failure ∧ failure.Foreign ↔
      (sink.writeTo .classes key.package key.name (entries.map Manifest.line) outlet).1 =
        .error failure ∧ failure.kind.isSystem = false ∧ failure.Foreign := by
  unfold emit
  rw [bind_apply, outcome_apply]
  generalize sink.writeTo .classes key.package key.name (entries.map Manifest.line) outlet = answer
  obtain ⟨cause | _, after⟩ := answer
  · by_cases hidden : (cause.kind.isSystem || cause.kind == .destinationExists) = true
    -- What is converted comes out as a failure of generation.
    · simp only [hidden, if_true]
      constructor
      · rintro ⟨same, foreign⟩
        cases same
        cases foreign
      · rintro ⟨same, unconverted, foreign⟩
        cases same
        simp only [unconverted, Bool.false_or, beq_iff_eq] at hidden
        rw [Failure.Foreign, hidden] at foreign
        cases foreign
    -- What is not converted comes out as it is.
    · simp only [hidden]
      have plain : cause.kind.isSystem = false := by
        simp only [Bool.or_eq_true, not_or, Bool.not_eq_true] at hidden
        exact hidden.1
      constructor
      · rintro ⟨same, foreign⟩
        cases same
        exact ⟨rfl, plain, foreign⟩
      · rintro ⟨same, _, foreign⟩
        cases same
        exact ⟨rfl, foreign⟩
  -- Lines that are written fail with nothing.
  · simp

/-- Committing a service fails with a failure that is none of generation exactly if the service is
refused with it. -/
theorem complete_foreign (sink : Sink σ) (key : TargetKey) (target : ServiceTarget)
    (outlet : Outlet σ) (failure : Failure) :
    (target.complete sink key outlet).1 = .error failure ∧ failure.Foreign ↔
      Refused sink key target outlet failure := by
  unfold complete
  cases completed : target.completed with
  | true =>
    -- A service that is committed is refused as one that comes too late.
    simp only [if_true]
    refine iff_of_false ?_ fun refused => ?_
    · rintro ⟨same, foreign⟩
      cases same
      cases foreign
    · rw [refused.uncompleted] at completed
      cases completed
  | false =>
    -- Reading back never fails, so the failure is the one of writing.
    obtain ⟨log, read⟩ := existingEntries_apply sink key outlet
    generalize Manifest.kept _ = existing at read
    generalize (⟨_, _, log⟩ : Outlet σ) = between at read
    have emitted := emit_foreign sink key (Manifest.merge existing target.lines) between failure
    have refused : Refused sink key target outlet failure ↔
        (emit sink key (Manifest.merge existing target.lines) between).1 = .error failure ∧
          failure.Foreign := by
      rw [emitted]
      -- What is read back is determined, so the refusal speaks of the same entries.
      constructor
      · rintro ⟨_, ⟨_, _, again, unwritten⟩, unconverted, foreign⟩
        cases read.symm.trans again
        exact ⟨unwritten, unconverted, foreign⟩
      · rintro ⟨unwritten, unconverted, foreign⟩
        exact ⟨completed, ⟨existing, between, read, unwritten⟩, unconverted, foreign⟩
    rw [refused]
    simp only [Bool.false_eq_true, if_false, bind_apply, pure_apply, read]
    rcases emit sink key (Manifest.merge existing target.lines) between with ⟨cause | _, after⟩
    · simp
    · simp [Outlet.note]

/-- On files, a service whose path is refused for a null byte is refused with that failure. -/
theorem refused_of_null {settings : FileSettings} {key : TargetKey} {target : ServiceTarget}
    {outlet : Outlet FileState} (uncompleted : target.completed = false)
    (null : outlet.state.RefusesNull (settings.servicePath key)) :
    ∃ text, Refused settings.sink key target outlet (.path ⟨.nullByte, text⟩) := by
  -- Reading back leaves the disk as it is, so the path is refused when it is opened for writing.
  obtain ⟨before, read⟩ := existingEntries_file settings key outlet
  obtain ⟨text, opening⟩ := (settings.openOnce_null key.package key.name outlet.state).2 null
  refine ⟨text, uncompleted, ⟨_, _, read, ?_⟩, rfl, rfl⟩
  generalize List.map Manifest.line _ = entries
  -- Writing comes to nothing more than the refusal to open.
  obtain ⟨log, wrote⟩ := settings.sink.writeTo_apply .classes key.package key.name entries
    { outlet with log := before }
  rw [show settings.sink.openWrite = settings.openOnce from rfl] at wrote
  rw [wrote]
  rcases opened : settings.openOnce .classes key.package key.name outlet.state with ⟨result, after⟩
  rw [opened] at opening
  cases opening
  rfl

end ServiceTarget

namespace Pass

/-- A row of services is committed up to one that is stopped in the pass so far. -/
def StopsBy (setup : Setup σ) (stopped : TargetKey → Pass σ μ → Prop) (keys : List TargetKey)
    (pass : Pass σ μ) : Prop :=
  ∃ done key rest between, keys = done ++ key :: rest ∧
    completeServices setup done pass = (.ok (), between) ∧ stopped key between

/-- The first service is stopped, or one that comes after its commit. -/
theorem stopsBy_cons {setup : Setup σ} {stopped : TargetKey → Pass σ μ → Prop} {key : TargetKey}
    {others : List TargetKey} {pass : Pass σ μ} :
    StopsBy setup stopped (key :: others) pass ↔ stopped key pass ∨
      ∃ middle, completeService setup key pass = (.ok (), middle) ∧
        StopsBy setup stopped others middle := by
  constructor
  · rintro ⟨done, last, rest, between, split, committed, here⟩
    -- Either nothing is committed before the stop, or the first service is.
    cases done with
    | nil =>
      cases split
      cases committed
      exact Or.inl here
    | cons first done =>
      cases split
      obtain ⟨_, middle, first, later⟩ := bind_eq_ok.1 committed
      exact Or.inr ⟨middle, first, done, last, rest, between, rfl, later, here⟩
  · rintro (here | ⟨middle, first, done, last, rest, between, rfl, later, here⟩)
    · exact ⟨[], key, others, pass, rfl, rfl, here⟩
    · exact ⟨key :: done, last, rest, between, rfl, (bind_of_ok first _).trans later, here⟩

/-- A service is refused with a failure by the sink of a pass. -/
def RefusedWith (setup : Setup σ) (failure : Failure) (key : TargetKey) (pass : Pass σ μ) : Prop :=
  ServiceTarget.Refused setup.sink key (pass.serviceAt key) pass.outlet failure

/-- A service on files that is not committed is refused for a null byte. -/
def RefusedForNull (settings : FileSettings) (key : TargetKey) (pass : Pass FileState μ) : Prop :=
  (pass.serviceAt key).completed = false ∧ pass.outlet.state.RefusesNull (settings.servicePath key)

/-- Committing services fails with a failure that is none of generation exactly if they are committed
up to one that is refused with it. -/
theorem completeServices_foreign (setup : Setup σ) (failure : Failure) (keys : List TargetKey)
    (pass : Pass σ μ) :
    (completeServices setup keys pass).1 = .error failure ∧ failure.Foreign ↔
      StopsBy setup (RefusedWith setup failure) keys pass := by
  -- The first service is the one that stops, or it is committed and the others decide.
  induction keys generalizing pass with
  | nil => exact iff_of_false nofun fun ⟨_, _, _, _, split, _⟩ => by simp at split
  | cons key others ih =>
    have refused := ServiceTarget.complete_foreign setup.sink key (pass.serviceAt key) pass.outlet
      failure
    have applied := completeService_apply setup key pass
    rw [stopsBy_cons, RefusedWith, ← refused, completeServices, bind_apply, applied]
    rcases (pass.serviceAt key).complete setup.sink key pass.outlet with ⟨cause | target, outlet⟩
    · simp
    · simpa using ih _

/-- Closing a pass fails with a failure that is none of generation exactly if the pass is open and its
services are committed up to one that is refused with it. -/
theorem finalize_foreign (setup : Setup σ) (failure : Failure) (pass : Pass σ μ) :
    (finalize setup pass).1 = .error failure ∧ failure.Foreign ↔ pass.finalized = false ∧
      StopsBy setup (RefusedWith setup failure) pass.services.keys
        { pass with finalized := true } := by
  have closing := finalize_closing setup pass
  -- An open pass fails where the commits of its services fail.
  rw [← completeServices_foreign]
  generalize finalize setup pass = answer at closing ⊢
  obtain ⟨result, after⟩ := answer
  cases closing with
  | refused closed =>
    -- A pass that is closed refuses with a failure of generation.
    change after.finalized = true at closed
    refine iff_of_false ?_ (by simp [closed])
    rintro ⟨same, foreign⟩
    cases same
    cases foreign
  | failed opened committed | closed opened committed => simp [opened, committed]

end Pass

namespace Generation

/-- A failure inside a template counts as one of generation. -/
theorem blame_generation (name : String) (failure : Failure) :
    (blame name failure).kind.isGeneration = true := by
  -- Those that do not count as such are shown as others.
  unfold blame
  split
  · rfl
  · split
    · assumption
    · rfl

/-- Rendering templates fails with failures of generation alone. -/
theorem renderAll_contained (setup : Setup σ) (render : String → Script μ) (names : List String)
    (pass : Pass σ μ) : ¬Escapes (renderAll setup render names pass).1 := by
  rcases rendered : renderAll setup render names pass with ⟨failure | _, last⟩
  -- The failure is that of one template.
  · obtain ⟨_, name, _, between, _, _, stops⟩ := renderAll_stops rendered
    rw [renderOne_apply] at stops
    generalize (render name).run setup _ = answer at stops
    obtain ⟨cause | text, after⟩ := answer
    · cases stops
      simp [Escapes, Failure.Foreign, blame_generation]
    · obtain ⟨log, left⟩ := noteLeftover_apply name text after
      cases left.symm.trans stops
  · exact id

/-- A listing counts as a failure that is none of generation exactly if it is this failure, and not
one of something that is not found. -/
theorem listed_foreign (directory : Path) (listing : Except Failure (List String))
    (failure : Failure) :
    listed directory listing = .error failure ∧ failure.Foreign ↔
      listing = .error failure ∧ failure.kind ≠ .system .notFound ∧ failure.Foreign := by
  unfold listed
  split
  -- That there is no template is a failure of generation.
  · refine iff_of_false ?_ nofun
    rintro ⟨same, foreign⟩
    cases same
    cases foreign
  · exact iff_of_false nofun nofun
  · rename_i cause
    split
    -- A directory that is not there is reported in words of its own.
    · rename_i missing
      refine iff_of_false ?_ ?_
      · rintro ⟨same, foreign⟩
        cases same
        cases foreign
      · rintro ⟨same, found, _⟩
        cases same
        exact found missing
    -- Every other failure of the system is passed on.
    · rename_i found
      constructor
      · rintro ⟨same, foreign⟩
        cases same
        exact ⟨rfl, found, foreign⟩
      · rintro ⟨same, _, foreign⟩
        exact ⟨same, foreign⟩

/-- A listing counts as a listing of templates exactly if it names at least one. -/
theorem listed_eq_ok {directory : Path} {listing : Except Failure (List String)}
    {names : List String} :
    listed directory listing = .ok names ↔ listing = .ok names ∧ names ≠ [] := by
  unfold listed
  -- The three cases are no names, some names, and a failure, which stays a failure.
  split
  · exact iff_of_false nofun fun ⟨same, nonempty⟩ => nonempty (Except.ok.inj same).symm
  · rename_i nonempty
    constructor
    · intro same
      cases same
      exact ⟨rfl, fun none => nonempty (by rw [none])⟩
    · exact fun ⟨same, _⟩ => same
  · refine iff_of_false ?_ nofun
    split <;> exact nofun

/-- A generation fails with a failure that is none of its own exactly if its listing is that failure,
or all templates of the listing render, none of them closes the pass, and closing it fails with that
failure. -/
theorem generate_foreign (setup : Setup σ) (render : String → Script μ)
    (listing : Except Failure (List String)) (pass : Pass σ μ) (failure : Failure) :
    (generate setup render listing pass).1 = .error failure ∧ failure.Foreign ↔
      (listing = .error failure ∧ failure.Foreign) ∨
        ∃ names last, listing = .ok names ∧
          renderAll setup render names pass = (.ok (), last) ∧
          (Pass.finalize setup last).1 = .error failure ∧ failure.Foreign := by
  unfold generate
  simp only [bind_apply, ofExcept_apply]
  cases listing with
  | error cause => simp
  | ok names =>
    have contained := renderAll_contained setup render names pass
    rcases rendered : renderAll setup render names pass with ⟨cause | _, last⟩
    -- The failure of a template is one of generation.
    · rw [rendered] at contained
      simp only [rendered]
      refine iff_of_false ?_ (by simp [rendered])
      rintro ⟨same, foreign⟩
      cases same
      exact contained foreign
    · simp only [rendered]
      -- All templates have rendered, so the answer is the one of the close.
      rcases closed : Pass.finalize setup last with ⟨cause | artifacts, after⟩ <;>
        simp [rendered, closed]

/-- A generation over the files of a directory fails like the one on its sink. -/
theorem run_fails_iff (options : GenerationOptions) (render : String → Script μ)
    (start : Pass FileState μ) (failure : Failure) :
    (run options render start).1 = .error failure ↔
      (generate (setup options) render (templatesOf start.outlet.state.disk options.templates)
        start).1 = .error failure := by
  -- What a generation yields is put together only once it has succeeded.
  unfold run
  simp only [bind_apply, state_apply]
  rcases generate (setup options) render (templatesOf start.outlet.state.disk options.templates)
    start with ⟨cause | ⟨names, artifacts⟩, after⟩
  · simp
  · simp

/-- All templates of a listing render, none of them closes the pass, and closing it commits the
services up to one that is stopped. -/
def ClosesUpTo (setup : Setup σ) (render : String → Script μ) (listing : Except Failure (List String))
    (pass : Pass σ μ) (stopped : TargetKey → Pass σ μ → Prop) : Prop :=
  ∃ names last, listing = .ok names ∧ names ≠ [] ∧
    renderAll setup render names pass = (.ok (), last) ∧ last.finalized = false ∧
    Pass.StopsBy setup stopped last.services.keys { last with finalized := true }

/-- On any sink, and whichever templates are listed, the failures of a generation that are none of its
own are those of the listing, but for what is not found, and those with which a service is refused
when all templates have rendered. So a generation over files fails with a failure that is none of its
own where the path of a service is refused for a null byte. -/
theorem escaping_failures (setup : Setup σ) (render : String → Script μ) (directory : Path)
    (listing : Except Failure (List String)) (pass : Pass σ μ) :
    (∀ failure, (generate setup render (listed directory listing) pass).1 = .error failure ∧
        failure.Foreign ↔
      (listing = .error failure ∧ failure.kind ≠ .system .notFound ∧ failure.Foreign) ∨
        ClosesUpTo setup render listing pass (Pass.RefusedWith setup failure)) ∧
    ∀ (options : GenerationOptions) (start : Pass FileState μ),
      (∀ failure, (run options render start).1 = .error failure ↔
        (generate (Generation.setup options) render
          (templatesOf start.outlet.state.disk options.templates) start).1 = .error failure) ∧
      (ClosesUpTo (Generation.setup options) render
          (templatesOf start.outlet.state.disk options.templates) start
          (Pass.RefusedForNull options.files) →
        Escapes (run options render start).1) := by
  -- The condition is put together from those of the listing and of closing the pass.
  have exact {τ : Type} (setup : Setup τ) (directory : Path)
      (listing : Except Failure (List String)) (pass : Pass τ μ) (failure : Failure) :
      (generate setup render (listed directory listing) pass).1 = .error failure ∧
          failure.Foreign ↔
        (listing = .error failure ∧ failure.kind ≠ .system .notFound ∧ failure.Foreign) ∨
          ClosesUpTo setup render listing pass (Pass.RefusedWith setup failure) := by
    simp only [generate_foreign, listed_foreign, listed_eq_ok, Pass.finalize_foreign, ClosesUpTo,
      and_assoc]
  refine ⟨exact setup directory listing pass, fun options start => ⟨?_, ?_⟩⟩
  · exact run_fails_iff options render start
  -- The failure of the null byte is the one with which the service is refused.
  · rintro ⟨names, last, listed, nonempty, rendered, opened, done, key, rest, between, split,
      committed, uncompleted, null⟩
    obtain ⟨text, refused⟩ := ServiceTarget.refused_of_null uncompleted null
    have found := (listed_eq_ok.1 listed).1
    have escapes := (exact (Generation.setup options) options.templates _ start
      (.path ⟨.nullByte, text⟩)).2 (Or.inr ⟨names, last, found, nonempty, rendered, opened, done,
        key, rest, between, split, committed, refused⟩)
    exact escapes_iff.2 ⟨_, (run_fails_iff options render start _).2 escapes.1, escapes.2⟩

/-- A generation over one template. -/
def oneTemplate : GenerationOptions where
  templates := .ofString "templates"
  files := ⟨.ofString "src", .ofString "res", false, .utf8⟩
  style := ⟨".py", Layout.normalizer⟩

/-- A disk with one template. -/
def templateDisk : Disk := (Disk.fresh.writeFile (.ofString "templates/a.jinja") .empty).2

/-- A template that contributes to a service whose name has a null byte. -/
def nullService : String → Script Unit := fun _ =>
  .service "a\x00b" (fun _ => .done "x") (.done "")

/-- The failure that the null byte brings about is none of generation. -/
theorem null_service_escapes :
    Escapes (run oneTemplate nullService (begin templateDisk [] ())).1 := by
  decide +kernel

/-- The template renders, and the generation stops at the service with the null byte. -/
theorem null_service_stops :
    ClosesUpTo (setup oneTemplate) nullService
        (templatesOf templateDisk oneTemplate.templates)
        (begin templateDisk [] ()) (Pass.RefusedForNull oneTemplate.files) ∧
      Escapes (run oneTemplate nullService (begin templateDisk [] ())).1 := by
  have stops : ClosesUpTo (setup oneTemplate) nullService
      (templatesOf templateDisk oneTemplate.templates)
      (begin templateDisk [] ()) (Pass.RefusedForNull oneTemplate.files) := by
    -- The service is the first one in the row, so none is committed before it.
    refine ⟨["a.jinja"],
      (renderAll (setup oneTemplate) nullService ["a.jinja"] (begin templateDisk [] ())).2,
      by decide +kernel, by decide, Prod.ext (by decide +kernel) rfl, by decide +kernel,
      [], ⟨"", "META-INF/services/a\x00b"⟩, [], _, by decide +kernel, rfl, by decide +kernel, ?_⟩
    exact ⟨by decide +kernel, by decide +kernel, Or.inr (by decide +kernel)⟩
  exact ⟨stops, ((escaping_failures (setup oneTemplate) nullService oneTemplate.templates
    (.error .tooDeep) (begin templateDisk [] ())).2 oneTemplate (begin templateDisk [] ())).2 stops⟩

end Generation

end Stencil
