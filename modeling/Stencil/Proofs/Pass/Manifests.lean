import Stencil.Proofs.Pass.Files

/-! The manifest of one service when its pass is closed: what stands at its path is brought up to
date, and stays so as long as the other services leave it alone. -/

namespace Stencil

/-- A path leads to a content exactly if this content is read there. -/
theorem Disk.contentAt?_eq_some {disk : Disk} {path : Path} {content : ByteArray} :
    disk.contentAt? path = some content ↔ disk.readFile path = .ok content := by
  -- Whatever is read counts, and nothing else does.
  unfold Disk.contentAt?
  cases disk.readFile path <;> simp [Except.toOption]

namespace Pass

open Attempt

variable {μ : Type} {settings : FileSettings} {setup : Setup FileState}

/-- While services are committed in order, each of them but one leaves what a path leads to as it
finds it. -/
def Spared (setup : Setup FileState) (path : Path) (own : TargetKey) :
    List TargetKey → Pass FileState μ → Prop
  | [], _ => True
  | key :: rest, pass =>
    (key ≠ own → (completeService setup key pass).2.outlet.state.disk.contentAt? path =
        pass.outlet.state.disk.contentAt? path) ∧
      Spared setup path own rest (completeService setup key pass).2

instance decidableSpared (setup : Setup FileState) (path : Path) (own : TargetKey) :
    (keys : List TargetKey) → (pass : Pass FileState μ) →
      Decidable (Spared setup path own keys pass)
  | [], _ => .isTrue trivial
  | key :: rest, pass =>
    have := decidableSpared setup path own rest (completeService setup key pass).2
    inferInstanceAs (Decidable (_ ∧ _))

/-- A service that is committed has its manifest brought up to date, and leaves the others as they
are. -/
theorem completeService_manifest (files : setup.sink = settings.sink)
    (utf8 : settings.encoding = .utf8) {key : TargetKey} {pass last : Pass FileState μ}
    (done : completeService setup key pass = (.ok (), last)) :
    last.outlet.state.disk.contentAt? (settings.servicePath key) =
        some (Manifest.update (settings.textAt pass.outlet.state.disk (settings.servicePath key))
          (pass.serviceAt key).lines).toUTF8 ∧
      ∀ other ≠ key, last.serviceAt other = pass.serviceAt other := by
  have committing := completeService_committing files key pass
  rw [done] at committing
  cases committing with
  | written _ writing =>
    -- Texts always have bytes in UTF-8, so the whole manifest was written.
    rcases writing.utf8 utf8 with
      ⟨failure, failed, _⟩ | ⟨_, _, location, later, rfl, _, found, held⟩
    · cases failed
    · exact ⟨Disk.contentAt?_eq_some.2 (Disk.readFile_eq_ok.2 ⟨location, found, held⟩),
        fun other different => by rw [serviceAt_put rfl, if_neg different]⟩

/-- Services that spare a path, all of them, leave what it leads to as they find it. -/
theorem Spared.contentAt? {path : Path} {own : TargetKey} {keys : List TargetKey}
    {pass last : Pass FileState μ} (spared : Spared setup path own keys pass) (apart : own ∉ keys)
    (done : completeServices setup keys pass = (.ok (), last)) :
    last.outlet.state.disk.contentAt? path = pass.outlet.state.disk.contentAt? path := by
  -- One commit after the other leaves it as it was.
  induction keys generalizing pass with
  | nil =>
    cases done
    rfl
  | cons key rest ih =>
    obtain ⟨_, between, here, others⟩ := bind_eq_ok.1 done
    obtain ⟨leaves, later⟩ := spared
    rw [List.mem_cons, not_or] at apart
    rw [here] at leaves later
    exact (ih later apart.2 others).trans (leaves (Ne.symm apart.1))

/-- When services are committed, the manifest of one of them is brought up to date if the others
spare it. -/
theorem completeServices_manifest (files : setup.sink = settings.sink)
    (utf8 : settings.encoding = .utf8) {own : TargetKey} {keys : List TargetKey}
    {pass last : Pass FileState μ} (member : own ∈ keys) (distinct : keys.Nodup)
    (spared : Spared setup (settings.servicePath own) own keys pass)
    (done : completeServices setup keys pass = (.ok (), last)) :
    last.outlet.state.disk.contentAt? (settings.servicePath own) =
      some (Manifest.update (settings.textAt pass.outlet.state.disk (settings.servicePath own))
        (pass.serviceAt own).lines).toUTF8 := by
  -- The services before it leave its lines and its file alone, and those after it its file.
  induction keys generalizing pass with
  | nil => cases member
  | cons key rest ih =>
    obtain ⟨_, between, here, others⟩ := bind_eq_ok.1 done
    obtain ⟨leaves, later⟩ := spared
    obtain ⟨apart, distinct⟩ := List.nodup_cons.1 distinct
    obtain ⟨manifest, untouched⟩ := completeService_manifest files utf8 here
    rw [here] at leaves later
    by_cases same : key = own
    -- Here its own commit comes first; those behind it spare the file.
    · subst same
      exact (later.contentAt? apart others).trans manifest
    -- Another commit comes first, and leaves its lines and its file to the rest.
    · have inside : own ∈ rest := (List.mem_cons.1 member).resolve_left (Ne.symm same)
      rw [ih inside distinct later others, untouched own (Ne.symm same)]
      simp only [FileSettings.textAt, leaves same]

/-- A pass that is closed with success has brought the manifest of each of its services up to date,
if the other services have spared it. -/
theorem finalize_manifest (files : setup.sink = settings.sink) (utf8 : settings.encoding = .utf8)
    {own : TargetKey} {pass last : Pass FileState μ} {artifacts : List Artifact}
    (member : own ∈ pass.services.keys)
    (spared : Spared setup (settings.servicePath own) own pass.services.keys
      { pass with finalized := true })
    (done : finalize setup pass = (.ok artifacts, last)) :
    last.outlet.state.disk.contentAt? (settings.servicePath own) =
      some (Manifest.update (settings.textAt pass.outlet.state.disk (settings.servicePath own))
        (pass.serviceAt own).lines).toUTF8 := by
  -- Closing commits every service once, as a table has no key twice.
  cases closing_of_finalize done with
  | closed opened committed only =>
    have manifest :=
      completeServices_manifest files utf8 member pass.services.nodup spared committed
    exact manifest

end Pass

end Stencil
