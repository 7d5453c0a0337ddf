import Stencil.Proofs.Pass.Files

/-! Closing a pass over files: every service is written to a path of its own, no other file changes,
and it can be done again over the files that it left. -/

namespace Stencil

namespace Pass

open Attempt

variable {μ : Type}

/-- What committing the services of some keys leaves behind. -/
structure Delivered (settings : FileSettings) (keys : List TargetKey)
    (before after : Pass FileState μ) : Prop where
  created : after.outlet.state.created =
    before.outlet.state.created ++ keys.map settings.servicePath
  written : after.outlet.state.written =
    before.outlet.state.written ++ keys.map settings.servicePath
  new : ∀ key ∈ keys, settings.servicePath key ∉ before.outlet.state.created
  distinct : (keys.map settings.servicePath).Nodup
  spared : ∀ {path content}, path.Plain → path ∉ keys.map settings.servicePath →
    before.outlet.state.disk.readFile path = .ok content →
    after.outlet.state.disk.readFile path = .ok content
  filled : ∀ key ∈ keys, ∃ content,
    after.outlet.state.disk.readFile (settings.servicePath key) = .ok content

namespace Delivered

variable {settings : FileSettings} {first second third : Pass FileState μ}

/-- Committing no service changes nothing. -/
theorem refl (settings : FileSettings) (pass : Pass FileState μ) : Delivered settings [] pass pass :=
  ⟨by simp, by simp, by simp, by simp, fun _ _ held => held, by simp⟩

/-- Services that are committed later go to paths of their own and spare the earlier ones. -/
theorem trans {keys more : List TargetKey} (left : Delivered settings keys first second)
    (plain : ∀ key ∈ keys, (settings.servicePath key).Plain)
    (right : Delivered settings more second third) :
    Delivered settings (keys ++ more) first third := by
  -- All that was created earlier still counts when the later ones look whether they are new.
  have apart : ∀ path ∈ more.map settings.servicePath,
      path ∉ first.outlet.state.created ∧ path ∉ keys.map settings.servicePath := by
    intro path member
    obtain ⟨key, inside, rfl⟩ := List.mem_map.1 member
    have fresh := right.new key inside
    rw [left.created, List.mem_append, not_or] at fresh
    exact fresh
  refine ⟨?_, ?_, ?_, ?_, ?_, ?_⟩
  · rw [right.created, left.created, List.map_append, List.append_assoc]
  · rw [right.written, left.written, List.map_append, List.append_assoc]
  · intro key member
    rcases List.mem_append.1 member with inside | inside
    · exact left.new key inside
    · exact (apart _ (List.mem_map_of_mem inside)).1
  · rw [List.map_append, List.nodup_append]
    refine ⟨left.distinct, right.distinct, ?_⟩
    intro path inside other outside same
    exact (apart other outside).2 (same ▸ inside)
  -- A file that neither part reaches is spared by both.
  · intro path content flat absent held
    rw [List.map_append, List.mem_append, not_or] at absent
    exact right.spared flat absent.2 (left.spared flat absent.1 held)
  · intro key member
    rcases List.mem_append.1 member with inside | inside
    · obtain ⟨content, held⟩ := left.filled key inside
      have path := List.mem_map_of_mem (f := settings.servicePath) inside
      exact ⟨content, right.spared (plain key inside) (fun late => (apart _ late).2 path) held⟩
    · exact right.filled key inside

end Delivered

variable {settings : FileSettings} {setup : Setup FileState}

/-- A service that is committed goes to a new path, and its table entry is exchanged. -/
theorem completeService_delivered (files : setup.sink = settings.sink)
    (utf8 : settings.encoding = .utf8) {key : TargetKey} {pass last : Pass FileState μ}
    (plain : (settings.servicePath key).Plain)
    (done : completeService setup key pass = (.ok (), last)) :
    Delivered settings [key] pass last := by
  -- The commit has succeeded, so its manifest was written.
  have committing := completeService_committing files key pass
  rw [done] at committing
  cases committing with
  | written _ writing =>
  rcases writing.utf8 utf8 with
    ⟨failure, failed, _⟩ | ⟨_, fresh, location, later, rfl, kept, found, held⟩
  · cases failed
  refine ⟨rfl, rfl, by simpa using fresh, by simp, ?_, ?_⟩
  -- Two plain paths that lead to the same place are one path.
  · intro path content flat absent readable
    refine kept.readFile readable fun place leads same => absent ?_
    subst same
    simp [Disk.plain_injective flat plain (kept.find leads) found]
  · intro other member
    rw [List.mem_singleton.1 member]
    exact ⟨_, Disk.readFile_eq_ok.2 ⟨location, found, held⟩⟩

/-- Services that are all committed go to new paths, each to its own. -/
theorem completeServices_delivered (files : setup.sink = settings.sink)
    (utf8 : settings.encoding = .utf8) {keys : List TargetKey} {pass last : Pass FileState μ}
    (plain : ∀ key ∈ keys, (settings.servicePath key).Plain)
    (done : completeServices setup keys pass = (.ok (), last)) :
    Delivered settings keys pass last := by
  -- One service after the other is committed.
  induction keys generalizing pass with
  | nil =>
    cases done
    exact .refl settings _
  | cons key rest ih =>
    obtain ⟨_, between, here, others⟩ := bind_eq_ok.1 done
    have first := completeService_delivered files utf8 (plain key List.mem_cons_self) here
    have later := ih (fun other member => plain other (List.mem_cons_of_mem _ member)) others
    exact first.trans (by simpa using plain key List.mem_cons_self) later

/-- A pass that is closed with success has delivered all of its services. -/
theorem finalize_delivered (files : setup.sink = settings.sink) (utf8 : settings.encoding = .utf8)
    {pass last : Pass FileState μ} {artifacts : List Artifact}
    (plain : ∀ key ∈ pass.services.keys, (settings.servicePath key).Plain)
    (done : finalize setup pass = (.ok artifacts, last)) :
    pass.finalized = false ∧ artifacts = last.artifacts ∧ last.sources = pass.sources ∧
      last.outlet.diagnostics = pass.outlet.diagnostics ∧
      Delivered settings pass.services.keys pass last := by
  -- Noting the success in the log changes nothing that was delivered.
  cases closing_of_finalize done with
  | closed opened committed only =>
    have delivered := completeServices_delivered files utf8 plain committed
    exact ⟨opened, rfl, only.sources, only.diagnostics, delivered.created, delivered.written,
      delivered.new, delivered.distinct, delivered.spared, delivered.filled⟩

/-- Services whose manifests are there, at paths that do not count as created. -/
structure Deliverable (settings : FileSettings) (keys : List TargetKey) (pass : Pass FileState μ) :
    Prop where
  plain : ∀ key ∈ keys, (settings.servicePath key).Plain
  below : ∀ key ∈ keys, (settings.servicePath key).parts ≠ []
  filled : ∀ key ∈ keys, ∃ content,
    pass.outlet.state.disk.readFile (settings.servicePath key) = .ok content
  new : ∀ key ∈ keys, settings.servicePath key ∉ pass.outlet.state.created
  distinct : (keys.map settings.servicePath).Nodup
  uncompleted : ∀ key ∈ keys, (pass.serviceAt key).completed = false

/-- The first of some services that can be delivered is committed, and the others still can be. -/
theorem Deliverable.step (files : setup.sink = settings.sink) (utf8 : settings.encoding = .utf8)
    {key : TargetKey} {rest : List TargetKey} {pass : Pass FileState μ}
    (ready : Deliverable settings (key :: rest) pass) :
    ∃ between, completeService setup key pass = (.ok (), between) ∧
      Deliverable settings rest between := by
  -- Its manifest is there and its path is new, so it can be committed again.
  obtain ⟨content, held⟩ := ready.filled key List.mem_cons_self
  obtain ⟨next, outlet, completed⟩ := ServiceTarget.complete_again utf8
    (ready.uncompleted key List.mem_cons_self) rfl (ready.plain key List.mem_cons_self)
    (ready.below key List.mem_cons_self) held (ready.new key List.mem_cons_self)
  have committed := completeService_apply setup key pass
  rw [files, completed] at committed
  have delivered := completeService_delivered files utf8 (ready.plain key List.mem_cons_self) committed
  -- The others have paths of their own, so they stay there and stay new.
  obtain ⟨apart, distinct⟩ := List.nodup_cons.1 ready.distinct
  have others : ∀ other ∈ rest, settings.servicePath other ≠ settings.servicePath key :=
    fun other member same => apart (same ▸ List.mem_map_of_mem member)
  -- What is left to show is that the others are filled, new and not committed.
  refine ⟨_, committed, fun other member => ready.plain other (List.mem_cons_of_mem _ member),
    fun other member => ready.below other (List.mem_cons_of_mem _ member), ?_, ?_, distinct, ?_⟩
  · intro other member
    obtain ⟨bytes, readable⟩ := ready.filled other (List.mem_cons_of_mem _ member)
    exact ⟨bytes, delivered.spared (ready.plain other (List.mem_cons_of_mem _ member))
      (by simpa using others other member) readable⟩
  · intro other member
    rw [delivered.created, List.mem_append, not_or]
    exact ⟨ready.new other (List.mem_cons_of_mem _ member), by simpa using others other member⟩
  · intro other member
    have different : other ≠ key := fun same => others other member (by rw [same])
    rw [serviceAt_put rfl, if_neg different]
    exact ready.uncompleted other (List.mem_cons_of_mem _ member)

/-- Services that can be delivered are all committed. -/
theorem completeServices_again (files : setup.sink = settings.sink)
    (utf8 : settings.encoding = .utf8) {keys : List TargetKey} {pass : Pass FileState μ}
    (ready : Deliverable settings keys pass) :
    ∃ last, completeServices setup keys pass = (.ok (), last) := by
  -- Each commit leaves the services behind it deliverable.
  induction keys generalizing pass with
  | nil => exact ⟨pass, rfl⟩
  | cons key rest ih =>
    obtain ⟨between, committed, later⟩ := ready.step files utf8
    obtain ⟨last, all⟩ := ih later
    exact ⟨last, bind_eq_ok.2 ⟨(), between, committed, all⟩⟩

/-- A pass that is open is closed with success if its services can be delivered. -/
theorem finalize_again (files : setup.sink = settings.sink) (utf8 : settings.encoding = .utf8)
    {pass : Pass FileState μ} (opened : pass.finalized = false)
    (ready : Deliverable settings pass.services.keys pass) :
    ∃ artifacts last, finalize setup pass = (.ok artifacts, last) := by
  have closing : Deliverable settings pass.services.keys { pass with finalized := true } :=
    ⟨ready.plain, ready.below, ready.filled, ready.new, ready.distinct, ready.uncompleted⟩
  obtain ⟨last, all⟩ := completeServices_again files utf8 closing
  -- Neither a closed pass nor a service stands in the way.
  rcases done : finalize setup pass with ⟨failure | artifacts, after⟩
  · cases closing_of_finalize done with
    | refused closed =>
      rw [opened] at closed
      cases closed
    | failed _ committed _ => cases all.symm.trans committed
  · exact ⟨artifacts, after, rfl⟩

end Pass

end Stencil
