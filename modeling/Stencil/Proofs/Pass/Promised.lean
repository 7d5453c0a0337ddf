import Stencil.Proofs.Pass.Delivered
import Stencil.Proofs.Pass.ServicePath
import Stencil.Proofs.Pass.Settled
import Stencil.Proofs.ReadBack
import Stencil.Proofs.Target.SourceFile

/-! Promised files: as long as no move fails and none reports an error, every source that was settled
has its text in its file. -/

namespace Stencil

/-- Sources whose paths spell places below the root, and whose files are read back from there. -/
structure RegularSource (settings : FileSettings) (suffix : String) (key : TargetKey) : Prop where
  package : RegularPackage key.package
  relative : startsWith (key.name ++ suffix) "/" = false
  down : ".." ∉ (settings.sourcePath suffix key).parts

instance (settings : FileSettings) (suffix : String) (key : TargetKey) :
    Decidable (RegularSource settings suffix key) :=
  decidable_of_iff (RegularPackage key.package ∧ startsWith (key.name ++ suffix) "/" = false ∧
    ".." ∉ (settings.sourcePath suffix key).parts)
    ⟨fun ⟨package, relative, down⟩ => ⟨package, relative, down⟩,
      fun regular => ⟨regular.package, regular.relative, regular.down⟩⟩

namespace RegularSource

variable {settings : FileSettings} {suffix : String} {key : TargetKey}

/-- A regular source is read back from where it is written. -/
theorem back (regular : RegularSource settings suffix key) :
    settings.resolve .sources "" (key.packagePath ++ (key.name ++ suffix)) =
      settings.sourcePath suffix key :=
  settings.readBack_of_readsBack
    (regular.package.readsBack ((Path.anchorOf_relative_iff _).2 regular.relative) _)

/-- A regular source below a relative root has a plain path. -/
theorem plain (regular : RegularSource settings suffix key)
    (root : settings.sourceRoot.anchor = .relative) : (settings.sourcePath suffix key).Plain := by
  -- Neither the segments nor the name leads away from the root.
  refine ⟨?_, regular.down⟩
  have name : Path.anchorOf (key.name ++ suffix) = .relative :=
    (Path.anchorOf_relative_iff _).2 regular.relative
  -- Without a package the name stands below the root itself.
  by_cases bare : key.package = ""
  · rw [FileSettings.sourcePath, bare, FileSettings.resolve_bare, Path.join_relative name]
    exact root
  · rcases regular.package with empty | segments
    · exact absurd empty bare
    rw [FileSettings.sourcePath, FileSettings.resolve_package settings .sources bare]
    refine (Path.joinAll_relative ?_ _).1.trans root
    intro text member
    rcases List.mem_append.1 member with segment | last
    · exact anchorOf_segment (segments text segment).2
    · rw [List.mem_singleton.1 last]
      exact name

end RegularSource

namespace Move

variable {μ : Type}

/-- Moves whose sources are regular and whose services have no parent in their paths. -/
def Regular (settings : FileSettings) (suffix : String) : Move μ → Prop
  | .settleSource key _ => RegularSource settings suffix key
  | .requestService interface | .contribute interface _ =>
    ".." ∉ (settings.servicePath (Pass.serviceKey interface)).parts
  | _ => True

instance (settings : FileSettings) (suffix : String) :
    (move : Move μ) → Decidable (move.Regular settings suffix)
  | .settleSource key _ => inferInstanceAs (Decidable (RegularSource settings suffix key))
  | .requestService interface | .contribute interface _ =>
    inferInstanceAs (Decidable (".." ∉ (settings.servicePath (Pass.serviceKey interface)).parts))
  | .requestSource _ | .dropSource _ _ | .dropService _ _ | .error _ | .system _ | .finalize
  | .remember _ => .isTrue trivial

end Move

namespace Pass

open Move

variable {μ : Type}

/-- Every settled source has its text in its file, at a path that counts as created, and all such
paths are plain. -/
structure Held (settings : FileSettings) (suffix : String) (rewrite : String → String)
    (moves : List (Move μ)) (state : FileState) : Prop where
  plain : ∀ path ∈ state.created, path.Plain
  known : ∀ {key text}, .settleSource key text ∈ moves →
    settings.sourcePath suffix key ∈ state.created
  held : ∀ {key text}, .settleSource key text ∈ moves →
    state.disk.readFile (settings.sourcePath suffix key) = .ok (rewrite text).toUTF8

/-- The settled sources are held by their files, and the services that were requested have plain
paths as well. -/
structure Promised (settings : FileSettings) (suffix : String) (rewrite : String → String)
    (moves : List (Move μ)) (pass : Pass FileState μ) : Prop
    extends Held settings suffix rewrite moves pass.outlet.state where
  settled : Settled moves pass
  services : ∀ key ∈ pass.services.keys, ∃ interface, key = serviceKey interface ∧
    (settings.servicePath key).Plain

variable {settings : FileSettings} {suffix : String} {rewrite : String → String}
  {look : Path → FileState → Option ByteArray}

/-- Nothing is promised at the start of a pass. -/
theorem promised_start (disk : Disk) (diagnostics : List Diagnostic) (memory : μ) :
    Promised settings suffix rewrite [] (.start (.start disk) diagnostics memory) :=
  ⟨⟨nofun, nofun, nofun⟩, settled_start _ _ _, nofun⟩

namespace Held

variable {moves : List (Move μ)} {state : FileState} {key : TargetKey} {text : String}

/-- A move that settles nothing adds no source to those that are held. -/
theorem keep (held : Held settings suffix rewrite moves state) {move : Move μ}
    (apart : ∀ key text, move ≠ .settleSource key text) :
    Held settings suffix rewrite (moves ++ [move]) state := by
  -- A source that was settled was settled by an earlier move.
  have earlier : ∀ {key text}, .settleSource key text ∈ moves ++ [move] →
      .settleSource key text ∈ moves := by
    intro key text member
    rcases List.mem_append.1 member with old | new
    · exact old
    · exact absurd (List.mem_singleton.1 new).symm (apart key text)
  exact ⟨held.plain, fun member => held.known (earlier member),
    fun member => held.held (earlier member)⟩

/-- A text that is written to a new path is held, and all others still are. -/
theorem written (held : Held settings suffix rewrite moves state)
    (plain : (settings.sourcePath suffix key).Plain)
    (new : settings.sourcePath suffix key ∉ state.created) {location : Location} {later : Disk}
    (kept : Disk.Keeps (· = location) state.disk later)
    (found : later.find (settings.sourcePath suffix key) = .ok location)
    (stands : later.fileAt? location = some (rewrite text).toUTF8) (listed : List Path) :
    Held settings suffix rewrite (moves ++ [.settleSource key text])
      ⟨later, state.created ++ [settings.sourcePath suffix key], listed⟩ := by
  -- The three parts are that paths are plain, that they are known and that they are held.
  refine ⟨?_, ?_, ?_⟩
  · intro path member
    rcases List.mem_append.1 member with old | own
    · exact held.plain path old
    · rw [List.mem_singleton.1 own]
      exact plain
  · intro other more member
    rcases List.mem_append.1 member with old | own
    · exact List.mem_append_left _ (held.known old)
    · cases List.mem_singleton.1 own
      exact List.mem_append_right _ List.mem_cons_self
  · intro other more member
    rcases List.mem_append.1 member with old | own
    -- The new path is none of those held before, so its place is not theirs.
    · have known := held.known old
      refine kept.readFile (held.held old) fun place leads same => new ?_
      subst same
      rw [← Disk.plain_injective (held.plain _ known) plain (kept.find leads) found]
      exact known
    · cases List.mem_singleton.1 own
      exact Disk.readFile_eq_ok.2 ⟨location, found, stands⟩

/-- A text that is found in its file is held like all others. -/
theorem found (held : Held settings suffix rewrite moves state)
    (plain : (settings.sourcePath suffix key).Plain) {created : List Path}
    (known : settings.sourcePath suffix key ∈ created)
    (more : created = state.created ∨ created = state.created ++ [settings.sourcePath suffix key])
    (stands : state.disk.readFile (settings.sourcePath suffix key) = .ok (rewrite text).toUTF8) :
    Held settings suffix rewrite (moves ++ [.settleSource key text]) { state with created } := by
  -- At most its own path has come to count as created.
  have origin : ∀ path ∈ created, path ∈ state.created ∨ path = settings.sourcePath suffix key := by
    intro path member
    rcases more with same | longer
    · exact Or.inl (same ▸ member)
    · simpa [longer] using member
  have remains : ∀ path ∈ state.created, path ∈ created := by
    intro path member
    rcases more with same | longer
    · exact same ▸ member
    · simp [longer, member]
  -- The disk is as before, so only what counts as created is looked at.
  refine ⟨?_, ?_, ?_⟩
  · intro path member
    rcases origin path member with old | own
    · exact held.plain path old
    · exact own ▸ plain
  · intro other text' member
    rcases List.mem_append.1 member with old | own
    · exact remains _ (held.known old)
    · cases List.mem_singleton.1 own
      exact known
  · intro other text' member
    rcases List.mem_append.1 member with old | own
    · exact held.held old
    · cases List.mem_singleton.1 own
      exact stands

end Held

namespace Promised

variable {moves : List (Move μ)} {pass : Pass FileState μ}

/-- A move that settles nothing and leaves the sink alone keeps all promises. -/
theorem keep (promised : Promised settings suffix rewrite moves pass) {move : Move μ}
    {setup : Setup FileState} (apart : ∀ key text, move ≠ .settleSource key text)
    (state : (move.run setup pass).2.outlet.state = pass.outlet.state)
    (services : ∀ key ∈ (move.run setup pass).2.services.keys, ∃ interface,
      key = serviceKey interface ∧ (settings.servicePath key).Plain) :
    Promised settings suffix rewrite (moves ++ [move]) (move.run setup pass).2 :=
  ⟨state ▸ promised.toHeld.keep apart,
    promised.settled.step fun key text same => absurd same (apart key text), services⟩

/-- A commit that reports no error adds its source to those that are held. -/
theorem commit (promised : Promised settings suffix rewrite moves pass)
    (utf8 : settings.encoding = .utf8) (root : settings.sourceRoot.anchor = .relative)
    {key : TargetKey} {text : String} (regular : RegularSource settings suffix key)
    {artifact : Artifact} {outlet : Outlet FileState}
    (emission : SourceTarget.FileEmission settings key (key.name ++ suffix) (rewrite text)
      pass.outlet artifact outlet)
    (quiet : countSeverity .error outlet.diagnostics = pass.errors) :
    Held settings suffix rewrite (moves ++ [.settleSource key text]) outlet.state := by
  have plain := regular.plain root
  cases emission with
  | fresh resolved new _ encoded kept found stands =>
    rw [utf8] at encoded
    cases encoded
    subst resolved
    exact promised.toHeld.written plain new kept found stands _
  | regenerated resolved occupies read decoded =>
    -- What was read back is the file of the source itself.
    rw [utf8, decode_utf8] at decoded
    rw [regular.back, decoded] at read
    subst resolved
    exact promised.toHeld.found plain occupies.known occupies.more read
  | collided =>
    -- The error that it reports would have been counted.
    simp [Pass.errors, countSeverity, SourceTarget.overwriteDiagnostic] at quiet

/-- A settling that succeeds and reports no error is the first one of its key, and keeps all
promises. -/
theorem settle (promised : Promised settings suffix rewrite moves pass)
    (utf8 : settings.encoding = .utf8) (root : settings.sourceRoot.anchor = .relative)
    {key : TargetKey} {text : String} (regular : RegularSource settings suffix key)
    {after : Pass FileState μ}
    (settling : Settling (settings.setup suffix rewrite look) key text pass (.ok ()) after)
    (quiet : after.errors = pass.errors)
    (settled : Settled (moves ++ [.settleSource key text]) after) :
    firstText? key moves = none ∧
      Promised settings suffix rewrite (moves ++ [.settleSource key text]) after := by
  -- The first settling commits the source, and every later one reports an error.
  cases promised.settled.resettling settling with
  | first never untouched formatted emitted =>
    cases formatted
    have emission := (SourceTarget.emission_of_emit emitted).onFiles
    have held := promised.commit utf8 root regular emission quiet
    exact ⟨never, held, settled, promised.services⟩
  | later known =>
    -- The error that it reports would have been counted.
    simp [Pass.errors, countSeverity, repeatedDiagnostic] at quiet

/-- Every regular move but the closing one keeps all promises if it succeeds and reports no
error. -/
theorem step (promised : Promised settings suffix rewrite moves pass)
    (utf8 : settings.encoding = .utf8) (sources : settings.sourceRoot.anchor = .relative)
    (classes : settings.classRoot.anchor = .relative) {move : Move μ}
    (regular : move.Regular settings suffix) (opened : move ≠ .finalize)
    (succeeds : (move.run (settings.setup suffix rewrite look) pass).1 = .ok ())
    (quiet : (move.run (settings.setup suffix rewrite look) pass).2.errors = pass.errors) :
    Promised settings suffix rewrite (moves ++ [move])
      (move.run (settings.setup suffix rewrite look) pass).2 := by
  cases move with
  | settleSource key text =>
    -- This is the one move that touches the disk.
    have settling := settleSource_settling (settings.setup suffix rewrite look) key text pass
    rw [show (settleSource (settings.setup suffix rewrite look) key text pass).1 = .ok ()
      from succeeds] at settling
    refine (promised.settle utf8 sources regular settling quiet ?_).2
    exact promised.settled.step fun _ _ same => by
      cases same
      exact succeeds
  | requestSource key =>
    obtain ⟨log, result⟩ := run_requestSource (settings.setup suffix rewrite look) pass key
    refine promised.keep (by simp) ?_ ?_ <;> rw [result] <;> split
    · rfl
    · rfl
    · exact promised.services
    · exact promised.services
  -- A service that is new is asked for by a regular move, so its path is plain.
  | requestService interface =>
    obtain ⟨log, result⟩ := run_requestService (settings.setup suffix rewrite look) pass interface
    refine promised.keep (by simp) ?_ ?_ <;> rw [result] <;> split
    · rfl
    · rfl
    · exact promised.services
    · intro key member
      rcases mem_keys_requested.1 member with same | old
      · exact ⟨interface, same, same ▸ FileSettings.servicePath_plain classes regular⟩
      · exact promised.services key old
  | contribute interface text =>
    refine promised.keep (by simp) ?_ ?_ <;> rw [run, appendService_apply] <;> split
    · rfl
    · rfl
    · exact promised.services
    · intro key member
      rcases Table.mem_keys_put.1 member with same | old
      · exact ⟨interface, same, same ▸ FileSettings.servicePath_plain classes regular⟩
      · exact promised.services key old
  -- All other moves leave the disk and the services alone.
  | dropSource key failure => exact promised.keep (by simp) rfl promised.services
  | dropService interface failure => exact promised.keep (by simp) rfl promised.services
  | error message => exact promised.keep (by simp) rfl promised.services
  | system message => exact promised.keep (by simp) rfl promised.services
  | finalize => exact absurd rfl opened
  | remember memory => exact promised.keep (by simp) rfl promised.services

end Promised

/-- A row of regular moves that goes smoothly, reports no error and does not close the pass keeps
all promises. -/
theorem promised_play (utf8 : settings.encoding = .utf8)
    (sources : settings.sourceRoot.anchor = .relative)
    (classes : settings.classRoot.anchor = .relative) {moves : List (Move μ)}
    {start : Pass FileState μ} (promised : Promised settings suffix rewrite [] start)
    (regular : ∀ move ∈ moves, move.Regular settings suffix) (opened : .finalize ∉ moves)
    (smooth : Smooth (settings.setup suffix rewrite look) moves start)
    (quiet : Along (settings.setup suffix rewrite look) (fun before move =>
      (move.run (settings.setup suffix rewrite look) before).2.errors = before.errors) moves start) :
    Promised settings suffix rewrite moves
      (play (settings.setup suffix rewrite look) moves start) := by
  -- The conditions hold at each move, and each move keeps the promises under them.
  have allowed : ∀ move ∈ moves, move.Regular settings suffix ∧ move ≠ .finalize :=
    fun move member => ⟨regular move member, fun same => opened (same ▸ member)⟩
  refine @play_invariant _ _ _ _ (Promised settings suffix rewrite) ?_ [] moves start promised
    (along_and (along_of_forall allowed start) (along_and smooth quiet))
  intro earlier pass move kept fits
  exact kept.step utf8 sources classes fits.1.1 fits.1.2 (isOk_iff.1 fits.2.1) fits.2.2

end Pass

end Stencil
