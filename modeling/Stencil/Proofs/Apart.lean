import Stencil.Proofs.Pass.Balance
import Stencil.Proofs.ReadBack
import Stencil.Proofs.Build

/-! Well-formed keys: each of them has a path of its own, so that in a pass that counts no earlier
file as created, sources that are settled under different ones never meet in a file. -/

namespace Stencil

/-- The pieces of a text tell the text. -/
theorem splitAt_injective (separator : Char) : Function.Injective (splitAt separator) := by
  intro text other same
  -- With the separator between them, the pieces make up the text again.
  have pieces := (List.map_inj_right fun _ _ => String.ofList_inj.1).1 same
  rw [cutAt_eq_splitOnP, cutAt_eq_splitOnP] at pieces
  have joined := congrArg [separator].intercalate pieces
  rw [← List.splitOn, ← List.splitOn, List.intercalate_splitOn,
    List.intercalate_splitOn] at joined
  exact String.toList_inj.1 joined

namespace Path

/-- Texts that can be components are their own parts. -/
theorem flatMap_partsOf {texts : List String}
    (components : ∀ text ∈ texts, isComponent text = true) : texts.flatMap partsOf = texts := by
  induction texts with
  | nil => rfl
  | cons text rest ih =>
    -- The first text is its own part, and the others are by induction.
    rw [List.flatMap_cons, partsOf_component (components text List.mem_cons_self),
      ih fun other member => components other (List.mem_cons_of_mem _ member)]
    rfl

/-- Texts that can be components follow the parts of the path to which they are joined. -/
theorem joinAll_components {texts : List String}
    (components : ∀ text ∈ texts, isComponent text = true) (path : Path) :
    (path.joinAll texts).parts = path.parts ++ texts := by
  -- They hold no slash, so none of them leads away from the path.
  have relative : ∀ text ∈ texts, anchorOf text = .relative := by
    intro text member
    have component := components text member
    simp only [isComponent, Bool.and_eq_true, Bool.not_eq_true', List.contains_eq_mem,
      decide_eq_false_iff_not] at component
    exact anchorOf_segment component.2
  rw [(joinAll_relative relative path).2, flatMap_partsOf components]

end Path

namespace TargetKey

/-- Keys whose sources are named without a detour: a package that is empty or has only full segments
without slashes, and a name without a slash that is not empty and, with the suffix, no dot. -/
structure WellFormed (suffix : String) (key : TargetKey) : Prop where
  package : RegularPackage key.package
  filled : key.name ≠ ""
  slashless : '/' ∉ key.name.toList
  proper : key.name ++ suffix ≠ "."

instance (suffix : String) (key : TargetKey) : Decidable (key.WellFormed suffix) :=
  decidable_of_iff
    (RegularPackage key.package ∧ key.name ≠ "" ∧ '/' ∉ key.name.toList ∧
      key.name ++ suffix ≠ ".")
    ⟨fun ⟨package, filled, slashless, proper⟩ => ⟨package, filled, slashless, proper⟩,
      fun formed => ⟨formed.package, formed.filled, formed.slashless, formed.proper⟩⟩

/-- The directories that a package stands for. -/
def directories (key : TargetKey) : List String :=
  if key.package = "" then [] else splitAt '.' key.package

/-- The directories of a package tell the package. -/
theorem package_of_directories {key other : TargetKey}
    (same : key.directories = other.directories) : key.package = other.package := by
  -- Only the empty package stands for no directory.
  have split : ∀ package, splitAt '.' package ≠ [] := by simp [splitAt, cutAt_ne_nil]
  unfold directories at same
  by_cases bare : key.package = "" <;> by_cases bare' : other.package = ""
  · rw [bare, bare']
  · simp [bare, bare', (split other.package).symm] at same
  · simp [bare, bare', split key.package] at same
  · simp only [bare, bare', if_false] at same
    exact splitAt_injective '.' same

/-- The directories and the file name of a well-formed key can be components of a path. -/
theorem WellFormed.components {suffix : String} {key : TargetKey} (formed : key.WellFormed suffix)
    (clean : '/' ∉ suffix.toList) :
    ∀ text ∈ key.directories ++ [key.name ++ suffix], isComponent text = true := by
  intro text member
  rcases List.mem_append.1 member with segment | last
  -- A segment holds no dot, so it is not one.
  · unfold directories at segment
    split at segment
    · cases segment
    · rename_i named
      obtain ⟨filled, slashless⟩ := (formed.package.resolve_left named) text segment
      obtain ⟨piece, cut, rfl⟩ := List.mem_map.1 segment
      have dotless : '.' ∉ piece := fun inside => by
        simpa using cutAt_clean (· == '.') cut '.' inside
      have other : String.ofList piece ≠ "." := fun same => by
        have chars : piece = ['.'] := by simpa using congrArg String.toList same
        simp [chars] at dotless
      simpa [isComponent, filled, other] using slashless
  -- The file name is neither empty nor a dot, and the suffix brings no slash.
  · rw [List.mem_singleton.1 last]
    have filled : key.name ++ suffix ≠ "" := fun empty =>
      formed.filled (String.append_eq_empty_iff.1 empty).1
    simpa [isComponent, filled, formed.proper] using ⟨formed.slashless, clean⟩

end TargetKey

namespace FileSettings

/-- The path of a well-formed key has its directories and its file name below the root. -/
theorem sourcePath_parts (settings : FileSettings) {suffix : String} {key : TargetKey}
    (formed : key.WellFormed suffix) (clean : '/' ∉ suffix.toList) :
    (settings.sourcePath suffix key).parts =
      settings.sourceRoot.parts ++ (key.directories ++ [key.name ++ suffix]) := by
  -- Resolving joins the directories of the package and the name, one after the other.
  have all : settings.sourcePath suffix key =
      settings.sourceRoot.joinAll (key.directories ++ [key.name ++ suffix]) := by
    simp [sourcePath, resolve, root, TargetKey.directories, Path.joinAll]
  rw [all, Path.joinAll_components (formed.components clean)]

/-- Well-formed keys whose paths are the same are the same. -/
theorem sourcePath_inj (settings : FileSettings) {suffix : String} (clean : '/' ∉ suffix.toList)
    {key other : TargetKey} (formed : key.WellFormed suffix) (formed' : other.WellFormed suffix)
    (same : settings.sourcePath suffix key = settings.sourcePath suffix other) : key = other := by
  -- Below the root, the last component is the file name, and all before it are the directories.
  have parts := congrArg Path.parts same
  rw [settings.sourcePath_parts formed clean, settings.sourcePath_parts formed' clean,
    List.append_cancel_left_eq] at parts
  obtain ⟨directories, file⟩ := List.append_inj' parts rfl
  have package := TargetKey.package_of_directories directories
  have name := (String.append_left_inj suffix).1 (List.singleton_inj.1 file)
  cases key
  cases other
  cases package
  cases name
  rfl

/-- If no earlier file counts as created, a destination that is not created in the pass is not
refused as existing. -/
theorem writeTo_unoccupied {settings : FileSettings} (afresh : settings.incremental = false)
    {place : Place} {package name : String} {texts : List String}
    {outlet refused : Outlet FileState}
    {failure : Failure} (new : settings.resolve place package name ∉ outlet.state.created)
    (wrote : settings.sink.writeTo place package name texts outlet = (.error failure, refused)) :
    failure.kind ≠ .destinationExists := by
  obtain ⟨result, state, log, same, writing⟩ :=
    writeTo_writing settings place package name texts outlet
  rw [wrote] at same
  cases same
  -- Only the two ways in which a path counts as created have this kind.
  cases writing with
  | unopened opening =>
    cases opening with
    | repeated known => exact absurd known new
    | existing _ incremental => exact absurd (incremental.symm.trans afresh) (by simp)
    | refused => exact Refusal.kind_ne_destinationExists _
  | spoiled => nofun

/-- At most the path that is written is new among the created ones. -/
theorem Writing.created_cases {settings : FileSettings} {place : Place} {path : Path}
    {texts : List String} {state after : FileState} {result : Except Failure Unit}
    (writing : Writing settings place path texts state result after) :
    ∀ known ∈ after.created, known ∈ state.created ∨ known = path := by
  -- The list of created paths is as before, or has the written path at its end.
  intro known member
  rcases writing.listed with ⟨_, created, _⟩ | ⟨_, _, created | created⟩
  · simpa [created] using member
  · exact Or.inl (created ▸ member)
  · simpa [created] using member

end FileSettings

namespace Move

variable {μ : Type}

/-- The key of the source that a move settles, if it does. -/
def settledKey? : Move μ → Option TargetKey
  | .settleSource key _ => some key
  | _ => none

/-- The keys of the sources that a row of moves settles, once for each call whose body rendered. -/
def settledKeys (moves : List (Move μ)) : List TargetKey := moves.filterMap settledKey?

end Move

namespace Pass

open Move

variable {μ : Type} {settings : FileSettings} {setup : Setup FileState}

/-- The sources of a pass stay apart: only the paths of settled ones count as created, and those
that are committed are fresh. -/
structure Separate (settings : FileSettings) (suffix : String) (settled : List TargetKey)
    (pass : Pass FileState μ) : Prop where
  created : ∀ path ∈ pass.outlet.state.created,
    ∃ key ∈ settled, settings.sourcePath suffix key = path
  fresh : ∀ key artifact, (pass.sourceAt key).artifact = some artifact → artifact.isFresh = true

/-- Settling a source whose path does not count as created leaves a fresh source or none. -/
theorem settleSource_fresh (files : setup.sink = settings.sink)
    (afresh : settings.incremental = false) {key : TargetKey} {pass : Pass FileState μ}
    (new : settings.sourcePath setup.style.suffix key ∉ pass.outlet.state.created)
    (fresh : ∀ other artifact, (pass.sourceAt other).artifact = some artifact →
      artifact.isFresh = true) (text : String) :
    ∀ other artifact,
      ((settleSource setup key text pass).2.sourceAt other).artifact = some artifact →
        artifact.isFresh = true := by
  obtain ⟨sink, style, look⟩ := setup
  subst files
  have settling := settleSource_settling ⟨settings.sink, style, look⟩ key text pass
  generalize settleSource ⟨settings.sink, style, look⟩ key text pass = answer at settling ⊢
  obtain ⟨result, after⟩ := answer
  -- All other sources stay as they are.
  have put : ∀ {later : Pass FileState μ} {target : SourceTarget},
      later.sources = pass.sources.put key target →
      (∀ artifact, target.artifact = some artifact → artifact.isFresh = true) →
      ∀ other artifact, (later.sourceAt other).artifact = some artifact →
        artifact.isFresh = true := by
    intro later target same here other artifact found
    rw [sourceAt_put same] at found
    split at found
    · exact here artifact found
    · exact fresh other artifact found
  cases settling with
  | repeated => exact fresh
  | unformatted => exact put rfl nofun
  | failed => exact put rfl nofun
  | committed uncommitted formatted emitted =>
    refine put rfl fun artifact same => ?_
    cases same
    -- A destination that does not count as created is not found occupied.
    cases SourceTarget.emission_of_emit emitted with
    | fresh => rfl
    | regenerated wrote occupied =>
      exact absurd occupied (FileSettings.writeTo_unoccupied afresh new wrote)
    | collided wrote occupied =>
      exact absurd occupied (FileSettings.writeTo_unoccupied afresh new wrote)

/-- Sources stay apart when a move settles a source with a path of its own, or leaves the pass open
otherwise. -/
theorem Separate.run (files : setup.sink = settings.sink) (afresh : settings.incremental = false)
    {settled : List TargetKey} {pass : Pass FileState μ}
    (separate : Separate settings setup.style.suffix settled pass) {move : Move μ}
    (unclosing : move ≠ .finalize)
    (own : ∀ key ∈ move.settledKey?, ∀ other ∈ settled,
      settings.sourcePath setup.style.suffix other ≠ settings.sourcePath setup.style.suffix key) :
    Separate settings setup.style.suffix (settled ++ move.settledKey?.toList)
      (move.run setup pass).2 := by
  by_cases settles : ∃ key text, move = .settleSource key text
  · obtain ⟨key, text, rfl⟩ := settles
    -- No source settled so far has the path of this one.
    have new : settings.sourcePath setup.style.suffix key ∉ pass.outlet.state.created := by
      intro member
      obtain ⟨other, inside, same⟩ := separate.created _ member
      exact own key rfl other inside same
    refine ⟨?_, settleSource_fresh files afresh new separate.fresh text⟩
    -- At most the path of the source itself counts as created from now on.
    have before : ∀ path ∈ pass.outlet.state.created, ∃ other ∈ settled ++ [key],
        settings.sourcePath setup.style.suffix other = path := by
      intro path member
      obtain ⟨other, inside, same⟩ := separate.created path member
      exact ⟨other, List.mem_append_left _ inside, same⟩
    intro path member
    change path ∈ (settleSource setup key text pass).2.outlet.state.created at member
    rcases settleSource_wrote files key text pass with same | ⟨shown, outcome, writing⟩
    · rw [same] at member
      exact before path member
    · rcases writing.created_cases path member with known | rfl
      · exact before path known
      · exact ⟨key, List.mem_append_right settled (List.mem_singleton.2 rfl), rfl⟩
  -- No other move writes anything or commits a source.
  · have apart : ∀ key text, move ≠ .settleSource key text :=
      fun key text same => settles ⟨key, text, same⟩
    have unsettled : move.settledKey? = none := by
      cases move with
      | settleSource key text => exact absurd rfl (apart key text)
      | _ => rfl
    rw [unsettled, Option.toList_none, List.append_nil]
    refine ⟨?_, fun key artifact found => ?_⟩
    · rw [run_state setup pass apart unclosing]
      exact separate.created
    · rw [(run_frame setup move pass).sources key (apart key)] at found
      exact separate.fresh key artifact found

/-- Along a row of moves that leaves the pass open, sources stay apart if the settled keys are
well-formed and none of them is settled twice. -/
theorem Separate.play (files : setup.sink = settings.sink) (afresh : settings.incremental = false)
    (clean : '/' ∉ setup.style.suffix.toList) {moves : List (Move μ)} (unclosed : .finalize ∉ moves)
    {settled : List TargetKey} {pass : Pass FileState μ}
    (separate : Separate settings setup.style.suffix settled pass)
    (formed : ∀ key ∈ settled ++ settledKeys moves, key.WellFormed setup.style.suffix)
    (distinct : (settled ++ settledKeys moves).Nodup) :
    Separate settings setup.style.suffix (settled ++ settledKeys moves)
      (Move.play setup moves pass) := by
  -- The key that the first move settles goes from the front of the row to those settled so far.
  induction moves generalizing settled pass with
  | nil => simpa [settledKeys, Move.play] using separate
  | cons move rest ih =>
    have split : settled ++ settledKeys (move :: rest) =
        settled ++ move.settledKey?.toList ++ settledKeys rest := by
      cases key : move.settledKey? <;> simp [settledKeys, key]
    rw [split] at formed distinct ⊢
    simp only [List.mem_cons, not_or] at unclosed
    refine ih unclosed.2 (separate.run files afresh (Ne.symm unclosed.1) ?_) formed distinct
    intro key here other inside same
    have member : key ∈ move.settledKey?.toList := Option.mem_toList.2 here
    -- Keys with the same path are the same, and no key is settled twice.
    have equal := settings.sourcePath_inj clean (formed other (by simp [inside]))
      (formed key (List.mem_append_left _ (List.mem_append_right _ member))) same
    have apart := (List.nodup_append.1 (List.nodup_append.1 distinct).1).2.2
    exact apart other inside key member equal

/-- Before a service is committed, the artifacts of a pass are those of its sources. -/
theorem Separate.artifacts {suffix : String} {settled : List TargetKey} {pass : Pass FileState μ}
    (separate : Separate settings suffix settled pass)
    (uncommitted : ∀ key, (pass.serviceAt key).artifact = none) :
    ∀ artifact ∈ pass.artifacts, artifact.isFresh = true := by
  intro artifact member
  have sources : pass.sources.values.filterMap SourceTarget.artifact =
      pass.sources.keys.filterMap fun key => (pass.sourceAt key).artifact :=
    pass.sources.filterMap_values rfl
  have services : pass.services.values.filterMap ServiceTarget.artifact =
      pass.services.keys.filterMap fun key => (pass.serviceAt key).artifact :=
    pass.services.filterMap_values rfl
  rw [Pass.artifacts, sources, services] at member
  -- The artifact is one of a source, as no service has any.
  rcases List.mem_append.1 member with source | service
  · obtain ⟨key, _, found⟩ := List.mem_filterMap.1 source
    exact separate.fresh key artifact found
  · obtain ⟨key, _, found⟩ := List.mem_filterMap.1 service
    rw [uncommitted key] at found
    cases found

end Pass

namespace Build

variable {μ : Type}

/-- Different well-formed keys have different paths, whatever the root is and even if their texts
are the same. So in a build that counts no earlier file as created, at any point of its script before
the pass is closed, no artifact is regenerated or collided if the source calls whose bodies have
rendered were made for well-formed keys, all of them different; calls whose bodies fail settle
nothing, and those that fail later leave no artifact. -/
theorem distinct_keys_stay_apart (build : Build μ) (clean : '/' ∉ build.style.suffix.toList) :
    (∀ key other : TargetKey, key.WellFormed build.style.suffix →
      other.WellFormed build.style.suffix → key ≠ other →
      build.settings.resolve .sources key.package (key.name ++ build.style.suffix) ≠
        build.settings.resolve .sources other.package (other.name ++ build.style.suffix)) ∧
    (build.settings.incremental = false → ∀ earlier rest, build.moves = earlier ++ rest →
      .finalize ∉ earlier → (∀ key ∈ Move.settledKeys earlier, key.WellFormed build.style.suffix) →
      (Move.settledKeys earlier).Nodup →
      ∀ artifact ∈ (build.after earlier).artifacts,
        artifact.regenerated = false ∧ artifact.collided = false) := by
  refine ⟨fun key other formed formed' different same => ?_, ?_⟩
  · exact different (build.settings.sourcePath_inj clean formed formed' same)
  · intro afresh earlier rest _ unclosed formed distinct artifact member
    -- At the start nothing is created and nothing is committed.
    have begun : Pass.Separate build.settings build.style.suffix [] build.start :=
      ⟨nofun, fun key artifact found => by cases found⟩
    have files : build.setup.sink = build.settings.sink := rfl
    have separate := begun.play files afresh clean unclosed formed distinct
    have collected : Pass.Collected earlier (build.after earlier) :=
      Pass.collected_unclosed unclosed _ _ _
    simpa [Artifact.isFresh] using separate.artifacts collected.uncommitted artifact member

/-- A build over the files of an earlier one, with two keys of the same text, one inside of the body
of the other, and a call that fails. -/
def sameTexts : Build Unit where
  settings := ⟨.ofString "src/..", .ofString "res", false, .utf8⟩
  style := ⟨".py", Layout.normalizer⟩
  look := fun _ _ => none
  script := .recover
    (.source "a" "b.c" (fun _ => .source "a.b" "c" (fun _ => .done "inner") (.done "outer"))
      (.source "x" "y" (fun _ => .fail .wrongType) (.done "")))
    fun _ => .source "x" "y" (fun _ => .done "again") (.done "")
  disk := (Disk.fresh.writeFile (.ofString "src/../a/b.c.py") "old".toUTF8).2
  diagnostics := []
  memory := ()

/-- The two keys of the same text are written to files of their own. -/
theorem same_texts_stay_apart :
    (⟨"a", "b.c"⟩ : TargetKey).toText = (⟨"a.b", "c"⟩ : TargetKey).toText ∧
      '/' ∉ sameTexts.style.suffix.toList ∧ sameTexts.settings.incremental = false ∧
      .finalize ∉ sameTexts.moves ∧
      Move.settledKeys sameTexts.moves = [⟨"a.b", "c"⟩, ⟨"a", "b.c"⟩, ⟨"x", "y"⟩] ∧
      (∀ key ∈ Move.settledKeys sameTexts.moves, key.WellFormed ".py") ∧
      (Move.settledKeys sameTexts.moves).Nodup ∧
      sameTexts.closing.artifacts.length = 3 ∧
      ∀ artifact ∈ sameTexts.closing.artifacts,
        artifact.regenerated = false ∧ artifact.collided = false := by
  have settled : Move.settledKeys sameTexts.moves =
      [⟨"a.b", "c"⟩, ⟨"a", "b.c"⟩, ⟨"x", "y"⟩] := by decide +kernel
  have unclosed : .finalize ∉ sameTexts.moves := by decide +kernel
  have formed : ∀ key ∈ Move.settledKeys sameTexts.moves, key.WellFormed ".py" := by
    rw [settled]
    decide +kernel
  have distinct : (Move.settledKeys sameTexts.moves).Nodup := by
    rw [settled]
    decide +kernel
  -- The point to look at is the end of the script.
  refine ⟨by decide +kernel, by decide, rfl, unclosed, settled, formed, distinct,
    by decide +kernel, ?_⟩
  rw [closing_eq]
  exact (distinct_keys_stay_apart sameTexts (by decide)).2 rfl sameTexts.moves []
    (List.append_nil _).symm unclosed formed distinct

end Build

end Stencil
