import Stencil.Proofs.Path
import Stencil.Sink.Files
import Stencil.Target.Key

/-! A source is written where the segments of its package lead one by one, and read back from where
its package leads as one text: when these two paths are the same. -/

namespace Stencil

/-- The texts that lead from a root to a destination: the segments of its package, then its name. -/
def destinationTexts (package name : String) : List String := splitAt '.' package ++ [name]

/-- Where a text starts: at the path that it is seen from, unless it names a start of its own. -/
def Path.startFrom (path : Path) (text : String) : Path :=
  if anchorOf text = .relative then path else start (anchorOf text)

/-- The destinations that are read back from where they are written. -/
def ReadsBack (root : Path) (key : TargetKey) (name : String) : Prop :=
  -- Without a package there is only the name.
  key.package = "" ∨
  -- Where no text names a start, the package has to leave the root in place.
  (∀ text ∈ destinationTexts key.package name, Path.anchorOf text = .relative) ∧
    root.startFrom (key.packagePath ++ name) = root ∨
  -- The last text that names a start discards all before it, so nothing may be discarded.
  ∃ before text after, destinationTexts key.package name = before ++ text :: after ∧
    Path.anchorOf text ≠ .relative ∧ (∀ later ∈ after, Path.anchorOf later = .relative) ∧
    (∀ earlier ∈ before, Path.partsOf earlier = []) ∧
    root.startFrom (key.packagePath ++ name) = .start (Path.anchorOf text)

/-- Packages whose segments are neither empty nor hold a slash; the empty package has none. -/
def RegularPackage (package : String) : Prop :=
  package = "" ∨ ∀ segment ∈ splitAt '.' package, segment ≠ "" ∧ '/' ∉ segment.toList

instance (package : String) : Decidable (RegularPackage package) :=
  inferInstanceAs (Decidable (_ ∨ _))

namespace TargetKey

/-- A package that is not empty becomes its segments with a slash after each. -/
theorem packagePath_eq {key : TargetKey} (named : key.package ≠ "") :
    key.packagePath = String.join ((splitAt '.' key.package).map (· ++ "/")) := by
  -- As lists of characters, both sides put a slash after each piece.
  have slashed := replace_separators '.' '/' key.package.toList
  rw [packagePath, if_neg (by simpa using named), slashed, splitAt, String.ext_iff]
  simp [List.flatMap_def, List.map_map, Function.comp_def]

/-- The package and a name lead to the parts of the segments and of the name. -/
theorem partsOf_packagePath {key : TargetKey} (named : key.package ≠ "") (name : String) :
    Path.partsOf (key.packagePath ++ name) =
      (destinationTexts key.package name).flatMap Path.partsOf := by
  rw [packagePath_eq named, Path.partsOf_slashed]
  simp [destinationTexts]

end TargetKey

namespace Path

/-- Joining a text starts where the text starts and goes on by its parts. -/
theorem join_eq_startFrom (path : Path) (text : String) :
    path.join text = (path.startFrom text).extend text := by
  by_cases relative : anchorOf text = .relative
  · simp [startFrom, relative, join_relative relative]
  · simp [startFrom, relative, join_absolute relative]

end Path

namespace FileSettings

/-- A destination in a package is reached by its texts one after the other. -/
theorem resolve_package (settings : FileSettings) (place : Place) {package : String}
    (named : package ≠ "") (name : String) :
    settings.resolve place package name =
      (settings.root place).joinAll (destinationTexts package name) := by
  simp [resolve, named, destinationTexts, Path.joinAll]

/-- A destination outside of all packages is reached by its name alone. -/
theorem resolve_bare (settings : FileSettings) (place : Place) (name : String) :
    settings.resolve place "" name = (settings.root place).join name := by
  simp [resolve, Path.joinAll]

/-- Where no text names a start, the two paths are the same if the package keeps the root. -/
theorem readBack_relative (settings : FileSettings) {key : TargetKey} {name : String}
    (named : key.package ≠ "")
    (relative : ∀ text ∈ destinationTexts key.package name, Path.anchorOf text = .relative) :
    settings.resolve .sources "" (key.packagePath ++ name) =
        settings.resolve .sources key.package name ↔
      settings.sourceRoot.startFrom (key.packagePath ++ name) = settings.sourceRoot := by
  -- Both paths end in the same parts, so they differ only in what comes before them.
  obtain ⟨anchor, parts⟩ := Path.joinAll_relative relative settings.sourceRoot
  rw [resolve_bare, resolve_package settings .sources named, Path.join_eq_startFrom]
  simp [Path.ext_iff, root, anchor, parts, TargetKey.partsOf_packagePath named]

/-- Where a text names a start, the two paths are the same if nothing before it counts. -/
theorem readBack_absolute (settings : FileSettings) {key : TargetKey} {name text : String}
    {before after : List String} (named : key.package ≠ "")
    (texts : destinationTexts key.package name = before ++ text :: after)
    (absolute : Path.anchorOf text ≠ .relative)
    (relative : ∀ later ∈ after, Path.anchorOf later = .relative) :
    settings.resolve .sources "" (key.packagePath ++ name) =
        settings.resolve .sources key.package name ↔
      (∀ earlier ∈ before, Path.partsOf earlier = []) ∧
        settings.sourceRoot.startFrom (key.packagePath ++ name) =
          .start (Path.anchorOf text) := by
  -- The parts from the last start on are the same, so all before them have to vanish.
  obtain ⟨anchor, parts⟩ := Path.joinAll_absolute absolute relative settings.sourceRoot before
  rw [resolve_bare, resolve_package settings .sources named, Path.join_eq_startFrom]
  simp only [Path.ext_iff, root, texts, anchor, parts, TargetKey.partsOf_packagePath named,
    Path.extend_anchor, Path.extend_parts, Path.start_anchor, Path.start_parts,
    List.flatMap_append, List.flatMap_cons]
  rw [← List.append_assoc (settings.sourceRoot.startFrom _).parts, List.append_left_eq_self,
    List.append_eq_nil_iff, List.flatMap_eq_nil_iff]
  exact ⟨fun ⟨begin, nothing, vanished⟩ => ⟨vanished, begin, nothing⟩,
    fun ⟨vanished, begin, nothing⟩ => ⟨begin, nothing, vanished⟩⟩

/-- Destinations that are read back are written and read back at the same path. -/
theorem readBack_of_readsBack (settings : FileSettings) {key : TargetKey} {name : String}
    (readsBack : ReadsBack settings.sourceRoot key name) :
    settings.resolve .sources "" (key.packagePath ++ name) =
      settings.resolve .sources key.package name := by
  -- Without a package, the two spellings are the same.
  by_cases bare : key.package = ""
  · simp [TargetKey.packagePath, bare]
  rcases readsBack with empty | ⟨relative, start⟩ | ⟨before, text, after, texts, absolute,
    relative, kept⟩
  · exact absurd empty bare
  · exact (readBack_relative settings bare relative).2 start
  · exact (readBack_absolute settings bare texts absolute relative).2 kept

/-- A source is read back from the path where it is written exactly if its package, as one text,
leads to where its segments lead. -/
theorem readBack_iff (settings : FileSettings) (key : TargetKey) (suffix : String) :
    settings.resolve .sources "" (key.packagePath ++ (key.name ++ suffix)) =
        settings.resolve .sources key.package (key.name ++ suffix) ↔
      ReadsBack settings.sourceRoot key (key.name ++ suffix) := by
  by_cases bare : key.package = ""
  · simp [ReadsBack, TargetKey.packagePath, bare]
  refine ⟨fun same => ?_, settings.readBack_of_readsBack⟩
  -- The last text that names a start, if there is one, decides which alternative applies.
  rcases Path.last_absolute (destinationTexts key.package (key.name ++ suffix)) with
    relative | ⟨before, text, after, texts, absolute, relative⟩
  · exact Or.inr (Or.inl ⟨relative, (readBack_relative settings bare relative).1 same⟩)
  · exact Or.inr (Or.inr ⟨before, text, after, texts, absolute, relative,
      (readBack_absolute settings bare texts absolute relative).1 same⟩)

end FileSettings

/-- A segment that is not empty and holds no slash names no start. -/
theorem anchorOf_segment {segment : String} (regular : '/' ∉ segment.toList) :
    Path.anchorOf segment = .relative := by
  -- The first character, if there is one, is no slash.
  rw [Path.anchorOf_relative_iff, startsWith]
  cases chars : segment.toList with
  | nil => rfl
  | cons c rest =>
    rw [chars] at regular
    have other : c ≠ '/' := fun same => regular (by simp [same])
    simp [List.isPrefixOf, other.symm]

/-- A package of regular segments names no start, however the text goes on. -/
theorem anchorOf_packagePath {key : TargetKey} (named : key.package ≠ "")
    (regular : ∀ segment ∈ splitAt '.' key.package, segment ≠ "" ∧ '/' ∉ segment.toList)
    (name : String) : Path.anchorOf (key.packagePath ++ name) = .relative := by
  -- The text begins with the first segment, which begins with a character of its own.
  rw [TargetKey.packagePath_eq named, Path.anchorOf_relative_iff, startsWith]
  cases segments : splitAt '.' key.package with
  | nil => exact absurd segments (by simp [splitAt, cutAt_ne_nil])
  | cons first rest =>
    obtain ⟨filled, slashless⟩ := regular first (by simp [segments])
    cases chars : first.toList with
    | nil => exact absurd (String.toList_eq_nil_iff.1 chars) filled
    | cons c more =>
      rw [chars] at slashless
      have other : c ≠ '/' := fun same => slashless (by simp [same])
      simp [List.isPrefixOf, chars, other.symm]

/-- Destinations of regular packages are read back from where they are written. -/
theorem RegularPackage.readsBack {key : TargetKey} (regular : RegularPackage key.package)
    {name : String} (relative : Path.anchorOf name = .relative) (root : Path) :
    ReadsBack root key name := by
  -- Neither the segments nor the name nor the package as a whole name a start.
  rcases regular with bare | segments
  · exact Or.inl bare
  by_cases bare : key.package = ""
  · exact Or.inl bare
  refine Or.inr (Or.inl ⟨?_, by simp [Path.startFrom, anchorOf_packagePath bare segments]⟩)
  intro text member
  rcases List.mem_append.1 member with segment | last
  · exact anchorOf_segment (segments text segment).2
  · rw [List.mem_singleton.1 last]
    exact relative

/-- A source whose package begins with a dot is written below the root and read back from outside
of it. -/
theorem readBack_leading_dot :
    (⟨Path.ofString "src", Path.ofString "res", true, .utf8⟩ : FileSettings).resolve .sources
        "" ((⟨".a", "m"⟩ : TargetKey).packagePath ++ ("m" ++ ".py")) ≠
      (⟨Path.ofString "src", Path.ofString "res", true, .utf8⟩ : FileSettings).resolve .sources
        ".a" ("m" ++ ".py") := by
  decide +kernel

end Stencil
