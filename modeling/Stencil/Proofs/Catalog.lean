import Mathlib.Data.List.TakeWhile
import Stencil.Catalog
import Stencil.Proofs.Visit

/-! Laws of the catalog: it lists the templates below a directory, each of them once and all of them
in order, wherever the directory is and however the directories inside of it are enumerated. -/

namespace Stencil

namespace Path

/-- A file name has a suffix: the part from its last dot on, if something stands before that dot and
something behind it, and otherwise no text at all. -/
def HasSuffix (name suffix : String) : Prop :=
  (∃ stem tail, name = stem ++ "." ++ tail ∧ '.' ∉ tail.toList ∧ stem ≠ "" ∧ tail ≠ "" ∧
    suffix = "." ++ tail) ∨
  (suffix = "" ∧ ∀ stem tail, name = stem ++ "." ++ tail → '.' ∉ tail.toList →
    stem = "" ∨ tail = "")

/-- A text with a dot has a last one. -/
theorem exists_last_dot {name : String} (dotted : '.' ∈ name.toList) :
    ∃ stem tail, name = stem ++ "." ++ tail ∧ '.' ∉ tail.toList := by
  -- It is the first one from behind.
  obtain ⟨back, front, chars, plain⟩ := List.eq_append_cons_of_mem (List.mem_reverse.2 dotted)
  refine ⟨String.ofList front.reverse, String.ofList back.reverse, ?_, by simpa using plain⟩
  rw [← String.toList_inj, ← List.reverse_inj, chars]
  simp

/-- The last dot of a text decides on its suffix. -/
theorem suffixOf_append (stem : String) {tail : String} (plain : '.' ∉ tail.toList) :
    suffixOf (stem ++ "." ++ tail) = if stem = "" ∨ tail = "" then "" else "." ++ tail := by
  -- Read from behind, the text has no dot before that one.
  have chars : (stem ++ "." ++ tail).toList = stem.toList ++ '.' :: tail.toList := by simp
  have behind : ∀ c ∈ tail.toList.reverse, (c != '.') = true := by
    intro c member
    simpa using fun same : c = '.' => plain (same ▸ List.mem_reverse.1 member)
  have last : ((stem.toList ++ '.' :: tail.toList).reverse.takeWhile (· != '.')).reverse =
      tail.toList := by
    rw [List.reverse_append, List.reverse_cons, List.append_assoc,
      List.takeWhile_append_of_pos behind]
    simp
  -- The dot stands first exactly if nothing stands before it.
  have short : (stem.toList ++ '.' :: tail.toList).length ≤ tail.toList.length + 1 ↔
      stem = "" := by
    rw [List.length_append, List.length_cons, ← String.toList_eq_nil_iff,
      ← List.length_eq_zero_iff]
    omega
  have bare : tail.toList.isEmpty = true ↔ tail = "" := by
    rw [List.isEmpty_iff, String.toList_eq_nil_iff]
  simp only [suffixOf, chars, last, Bool.or_eq_true, decide_eq_true_eq, short, bare, or_comm]
  split
  · rfl
  · simp

/-- A text without a dot has no suffix. -/
theorem suffixOf_plain {name : String} (plain : '.' ∉ name.toList) : suffixOf name = "" := by
  -- Read from behind, the text has no dot at which to stop.
  have all : name.toList.reverse.takeWhile (· != '.') = name.toList.reverse := by
    refine List.takeWhile_eq_self_iff.2 fun c member => ?_
    simpa using fun same : c = '.' => plain (same ▸ List.mem_reverse.1 member)
  simp [suffixOf, all]

/-- The suffix of a file name is the one that it has. -/
theorem suffixOf_eq_iff {name suffix : String} :
    suffixOf name = suffix ↔ HasSuffix name suffix := by
  -- A name with a dot is cut at its last one, and a name without a dot has no suffix.
  constructor
  · rintro rfl
    by_cases dotted : '.' ∈ name.toList
    · obtain ⟨stem, tail, rfl, plain⟩ := exists_last_dot dotted
      by_cases bare : stem = "" ∨ tail = ""
      -- Every cut at a last dot decides on one suffix, and this one on the empty text.
      · refine Or.inr ⟨by rw [suffixOf_append stem plain, if_pos bare], ?_⟩
        intro front back same clean
        have cut := suffixOf_append stem plain
        rw [same, suffixOf_append front clean, if_pos bare, ite_eq_left_iff] at cut
        exact of_not_not fun filled => by simpa using cut filled
      · obtain ⟨first, last⟩ := not_or.1 bare
        exact Or.inl ⟨stem, tail, rfl, plain, first, last,
          by rw [suffixOf_append stem plain, if_neg bare]⟩
    · refine Or.inr ⟨suffixOf_plain dotted, ?_⟩
      rintro stem tail rfl
      simp at dotted
  · rintro (⟨stem, tail, rfl, plain, first, last, rfl⟩ | ⟨rfl, bare⟩)
    · rw [suffixOf_append stem plain, if_neg (not_or.2 ⟨first, last⟩)]
    · by_cases dotted : '.' ∈ name.toList
      · obtain ⟨stem, tail, rfl, plain⟩ := exists_last_dot dotted
        rw [suffixOf_append stem plain, if_pos (bare stem tail rfl plain)]
      · exact suffixOf_plain dotted

end Path

namespace Catalog

/-- Names lead from a place down to a template: to a file whose suffix is among the given ones, by
way of names none of which, its own included, starts with an underscore. -/
structure TemplateAt (disk : Disk) (place : Location) (suffixes parts : List String) : Prop where
  file : ∃ content, disk.node? (parts.reverse ++ place) = some (.file content)
  suffixed : ∃ last suffix, parts.getLast? = some last ∧ Path.HasSuffix last suffix ∧
    suffix ∈ suffixes
  shown : ∀ part ∈ parts, part.toList.head? ≠ some '_'

/-- The path of a node that was met, if it is a template. -/
def templateName? (suffixes : List String) (entry : List String × Node) : Option String :=
  match entry.2 with
  | .file _ => if isTemplate suffixes entry.1 then some (nameOf entry.1) else none
  | .directory => none

/-- The templates among the nodes that were met, sorted by path. -/
def namesOf (suffixes : List String) (entries : List (List String × Node)) : List String :=
  (entries.filterMap (templateName? suffixes)).mergeSort fun a b => decide (a ≤ b)

/-- The catalog goes through the nodes below a place in the order of the table. -/
theorem namesBelow_eq (disk : Disk) (place : Location) (suffixes : List String) :
    namesBelow disk place suffixes = namesOf suffixes (disk.nodesBelow place) := rfl

/-- A name is partial if it starts with an underscore. -/
theorem isPartialName_iff {name : String} :
    isPartialName name = true ↔ name.toList.head? = some '_' := by
  have mark : "_".toList = ['_'] := rfl
  rw [isPartialName, startsWith, mark]
  cases name.toList with
  | nil => simp
  | cons c rest => simpa using eq_comm

/-- Names lead to a template by the suffix of the last one and the first letters of all. -/
theorem isTemplate_iff {suffixes parts : List String} :
    isTemplate suffixes parts = true ↔
      (∃ last suffix, parts.getLast? = some last ∧ Path.HasSuffix last suffix ∧
        suffix ∈ suffixes) ∧ ∀ part ∈ parts, part.toList.head? ≠ some '_' := by
  unfold isTemplate
  -- Without a last name there is no suffix.
  cases parts.getLast? with
  | none => simp
  | some last =>
    simp only [← Path.suffixOf_eq_iff, ne_eq, ← isPartialName_iff]
    simp

variable {disk : Disk} {place : Location} {suffixes : List String}

/-- A node that was met is a template exactly if its names lead to one. -/
theorem templateName?_eq_some {entries : List (List String × Node)}
    (visits : disk.Visits place entries) {parts : List String} {node : Node}
    (met : (parts, node) ∈ entries) {name : String} :
    templateName? suffixes (parts, node) = some name ↔
      TemplateAt disk place suffixes parts ∧ name = nameOf parts := by
  -- A visit tells the node to which the names lead.
  have found := ((visits.mem_iff _ _).1 met).2
  have led : TemplateAt disk place suffixes parts ↔
      (∃ content, node = .file content) ∧ isTemplate suffixes parts = true := by
    rw [isTemplate_iff]
    constructor
    · rintro ⟨⟨content, file⟩, suffixed, shown⟩
      exact ⟨⟨content, Option.some.inj (found.symm.trans file)⟩, suffixed, shown⟩
    · rintro ⟨⟨content, rfl⟩, suffixed, shown⟩
      exact ⟨⟨content, found⟩, suffixed, shown⟩
  rw [led, templateName?]
  -- Only a file has a name in the catalog.
  cases node with
  | file content =>
    have turned : nameOf parts = name ↔ name = nameOf parts := eq_comm
    simp [turned]
  | directory => simp

/-- At least one name leads to a template. -/
theorem TemplateAt.filled {parts : List String} (template : TemplateAt disk place suffixes parts) :
    parts ≠ [] := by
  obtain ⟨last, _, ending, _⟩ := template.suffixed
  rintro rfl
  cases ending

/-- The catalog has the paths of the templates, and no others. -/
theorem mem_namesOf {entries : List (List String × Node)} (visits : disk.Visits place entries)
    {name : String} :
    name ∈ namesOf suffixes entries ↔
      ∃ parts, TemplateAt disk place suffixes parts ∧ name = nameOf parts := by
  rw [namesOf, List.mem_mergeSort, List.mem_filterMap]
  constructor
  · rintro ⟨⟨parts, node⟩, met, named⟩
    exact ⟨parts, (templateName?_eq_some visits met).1 named⟩
  -- A visit leaves no file out.
  · rintro ⟨parts, template, rfl⟩
    obtain ⟨content, file⟩ := template.file
    have met := (visits.mem_iff parts (.file content)).2 ⟨template.filled, file⟩
    exact ⟨_, met, (templateName?_eq_some visits met).2 ⟨template, rfl⟩⟩

/-- The names between the slashes of a path tell the path. -/
theorem nameOf_inj {parts others : List String} (filled : parts ≠ []) (filled' : others ≠ [])
    (plain : ∀ part ∈ parts, '/' ∉ part.toList) (plain' : ∀ part ∈ others, '/' ∉ part.toList)
    (same : nameOf parts = nameOf others) : parts = others := by
  -- No name holds a slash, so a path is cut at the slashes between its names only.
  have pieces : ∀ {texts : List String}, texts ≠ [] → (∀ text ∈ texts, '/' ∉ text.toList) →
      (nameOf texts).toList.splitOn '/' = texts.map String.toList := by
    intro texts filled plain
    rw [nameOf, String.toList_intercalate]
    exact List.splitOn_intercalate '/' (by simpa using plain) (by simpa using filled)
  have chars := pieces filled' plain'
  rw [← same, pieces filled plain] at chars
  exact (List.map_inj_right fun _ _ => String.toList_inj.1).1 chars

/-- No path is found twice. -/
theorem nodup_found {entries : List (List String × Node)} (visits : disk.Visits place entries) :
    (entries.filterMap (templateName? suffixes)).Nodup := by
  -- The disk carries the proof that no name holds a slash.
  have plain : ∀ {parts node}, (parts, node) ∈ entries → ∀ part ∈ parts, '/' ∉ part.toList := by
    intro parts node met part member
    have named := Disk.isNodeName_of_contains
      (Disk.contains_of_node? ((visits.mem_iff _ _).1 met).2) part (List.mem_reverse.2 member)
    simp only [isNodeName, isComponent, Bool.and_eq_true, Bool.not_eq_true',
      List.contains_eq_mem, decide_eq_false_iff_not] at named
    exact named.1.2
  refine List.pairwise_filterMap.2 (visits.nodup.imp_of_mem ?_)
  rintro ⟨parts, node⟩ ⟨others, held⟩ first second apart name named _ again rfl
  -- Two nodes with one path are met under the same names, where there is only one node.
  obtain ⟨filled, here⟩ := (visits.mem_iff _ _).1 first
  obtain ⟨filled', there⟩ := (visits.mem_iff _ _).1 second
  have same := ((templateName?_eq_some visits first).1 named).2.symm.trans
    ((templateName?_eq_some visits second).1 again).2
  cases nameOf_inj filled filled' (plain first) (plain second) same
  cases here.symm.trans there
  exact apart rfl

/-- The catalog is sorted. -/
theorem pairwise_namesOf (suffixes : List String) (entries : List (List String × Node)) :
    (namesOf suffixes entries).Pairwise (· ≤ ·) := by
  -- The order of texts is total and transitive, which is all that sorting needs.
  have sorted : (namesOf suffixes entries).Pairwise fun a b => decide (a ≤ b) = true :=
    List.pairwise_mergeSort (fun a b c => by simpa using String.le_trans)
      (fun a b => by simpa using String.le_total a b) _
  simpa using sorted

/-- The catalog has every path once, and all of them in order. -/
theorem increasing_namesOf {entries : List (List String × Node)}
    (visits : disk.Visits place entries) :
    (namesOf suffixes entries).Pairwise (· < ·) := by
  have nodup : (namesOf suffixes entries).Nodup :=
    (List.mergeSort_perm _ _).nodup_iff.2 (nodup_found visits)
  exact (pairwise_namesOf suffixes entries).imp₂ (fun _ _ => Std.lt_of_le_of_ne) nodup

/-- The catalog does not depend on the order in which the nodes were met. -/
theorem namesOf_perm {entries more : List (List String × Node)} (same : entries.Perm more) :
    namesOf suffixes entries = namesOf suffixes more := by
  -- Sorted lists with the same members are the same.
  refine List.Perm.eq_of_pairwise (fun _ _ _ _ => String.le_antisymm)
    (pairwise_namesOf suffixes entries) (pairwise_namesOf suffixes more) ?_
  exact (List.mergeSort_perm _ _).trans
    ((same.filterMap _).trans (List.mergeSort_perm _ _).symm)

/-- The catalog of a path that is a directory is that of its place. -/
theorem templates_eq_namesOf {directory : Path}
    (isDirectory : disk.pathIsDirectory directory = .ok true) (suffixes : List String) :
    ∃ place, disk.find directory = .ok place ∧
      templates disk directory suffixes = .ok (namesOf suffixes (disk.nodesBelow place)) := by
  cases found : disk.find directory with
  | ok place => exact ⟨place, rfl, by simp [templates, isDirectory, found, namesBelow_eq]⟩
  | error refusal =>
    -- A path that leads nowhere is no directory.
    unfold Disk.pathIsDirectory at isDirectory
    cases refusal <;> simp [found] at isDirectory

/-- The catalog of a directory has the paths of the templates below it, and no others; it has each
of them once, and all of them in order. The order in which directories list their names does not
matter to it, nor does anything that does not lie below the directory. -/
theorem templates_listed (disk : Disk) (directory : Path) (suffixes : List String)
    (isDirectory : disk.pathIsDirectory directory = .ok true) :
    ∃ place names, disk.find directory = .ok place ∧
      templates disk directory suffixes = .ok names ∧
      names.Pairwise (· < ·) ∧
      (∀ name, name ∈ names ↔ ∃ parts, TemplateAt disk place suffixes parts ∧
        name = "/".intercalate parts) ∧
      (∀ listing : Disk.Listing disk, namesOf suffixes (listing.walk place) = names) ∧
      ∀ (other : Disk) (elsewhere : Path) (there : Location),
        other.pathIsDirectory elsewhere = .ok true → other.find elsewhere = .ok there →
          disk.SameBelow place other there → templates other elsewhere suffixes = .ok names := by
  obtain ⟨place, found, listed⟩ := templates_eq_namesOf isDirectory suffixes
  have visits := disk.visits_nodesBelow place
  refine ⟨place, _, found, listed, increasing_namesOf visits, fun name => mem_namesOf visits,
    fun listing => ?_, fun other elsewhere there isDirectory' found' same => ?_⟩
  -- A walk and the table visit the same nodes.
  · exact namesOf_perm ((listing.visits_walk place).perm visits fun _ _ => rfl)
  -- The two tables may have the nodes in different orders.
  · obtain ⟨place', again, listed'⟩ := templates_eq_namesOf isDirectory' suffixes
    cases found'.symm.trans again
    rw [listed', namesOf_perm (visits.perm (other.visits_nodesBelow there) same)]

/-- A directory whose own name is partial, as are two names inside of it, and in which another
directory is named like a template. -/
def shelf : Path := .ofString "_t"

/-- The disk with this directory. -/
def shelfDisk : Disk :=
  let write := fun (disk : Disk) (name : String) => (disk.writeFile (shelf.join name) .empty).2
  ["n.j2/x.jinja", "n-1.j2", "_m.j2", "n.j2/_p/c.jinja", "d.jinja.", ".j2"].foldl write .fresh

/-- Two of its files are templates, and the paths are compared as a whole. -/
theorem shelf_listed :
    shelfDisk.pathIsDirectory shelf = .ok true ∧
      ∃ place, shelfDisk.find shelf = .ok place ∧
        templates shelfDisk shelf templateSuffixes = .ok ["n-1.j2", "n.j2/x.jinja"] ∧
        ∀ listing : Disk.Listing shelfDisk,
          namesOf templateSuffixes (listing.walk place) = ["n-1.j2", "n.j2/x.jinja"] := by
  have isDirectory : shelfDisk.pathIsDirectory shelf = .ok true := by decide +kernel
  obtain ⟨place, names, found, listed, -, -, walks, -⟩ :=
    templates_listed shelfDisk shelf templateSuffixes isDirectory
  have there : shelfDisk.find shelf = .ok ("_t" :: Disk.home) := by decide +kernel
  have met : (shelfDisk.nodesBelow ("_t" :: Disk.home)).filterMap
      (templateName? templateSuffixes) = ["n.j2/x.jinja", "n-1.j2"] := by decide +kernel
  -- The two names are sorted by the steps of the merge.
  have sorted : (["n.j2/x.jinja", "n-1.j2"].mergeSort fun a b => decide (a ≤ b)) =
      ["n-1.j2", "n.j2/x.jinja"] := by
    simp [List.mergeSort, List.MergeSort.Internal.splitInTwo]
  have result : templates shelfDisk shelf templateSuffixes = .ok ["n-1.j2", "n.j2/x.jinja"] := by
    simp only [templates, isDirectory, there, namesBelow_eq, namesOf, met, sorted]
  cases listed.symm.trans result
  exact ⟨isDirectory, place, found, listed, walks⟩

end Catalog

end Stencil
