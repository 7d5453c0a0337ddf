import Mathlib.Data.List.Nodup
import Stencil.Proofs.Spelled

/-! Visits of all that lies below a place: in whichever order each directory lists its names, a walk
down all of them comes to every node below the place once, and to nothing else. -/

namespace Stencil

namespace Disk

/-- A list of nodes, by the names that lead to them, is a visit of what lies below a place: every
node there is in it once, and nothing else is. -/
structure Visits (disk : Disk) (place : Location) (entries : List (List String × Node)) :
    Prop where
  nodup : entries.Nodup
  mem_iff : ∀ names node, (names, node) ∈ entries ↔
    names ≠ [] ∧ disk.node? (names.reverse ++ place) = some node

/-- Below a place on a disk lies what lies below another place, maybe on another disk. -/
def SameBelow (disk : Disk) (place : Location) (other : Disk) (there : Location) : Prop :=
  ∀ names, names ≠ [] →
    disk.node? (names.reverse ++ place) = other.node? (names.reverse ++ there)

/-- Places below which the same nodes lie have the same visits, up to their order. -/
theorem Visits.perm {disk other : Disk} {place there : Location}
    {entries more : List (List String × Node)} (visits : disk.Visits place entries)
    (again : other.Visits there more) (same : disk.SameBelow place other there) :
    entries.Perm more := by
  -- Nothing occurs twice, so it is enough to look at what occurs.
  refine (List.perm_ext_iff_of_nodup visits.nodup again.nodup).2 fun ⟨names, node⟩ => ?_
  rw [visits.mem_iff, again.mem_iff]
  exact and_congr_right fun some => by rw [same names some]

/-- On the way down to a node, every place before it is a directory. -/
theorem directory_above {disk : Disk} {name : String} {front place : Location}
    (held : disk.nodes.contains (front ++ name :: place) = true) (below : front ≠ []) :
    disk.node? (name :: place) = some .directory := by
  -- The next node on the way down lies inside of it.
  obtain ⟨rest, last, rfl⟩ := (List.eq_nil_or_concat front).resolve_left below
  rw [List.concat_eq_append, List.append_assoc] at held
  have inside := (disk.closed last (name :: place)
    (contains_above (List.cons_ne_nil _ _) held)).1
  simpa only [directoryIn, beq_iff_eq, node?] using inside

/-- A place where a node is found has one. -/
theorem contains_of_node? {disk : Disk} {place : Location} {node : Node}
    (found : disk.node? place = some node) : disk.nodes.contains place = true := by
  rw [Table.contains, ← node?, found]
  rfl

/-- The names that lead down to a node can all name one. -/
theorem isNodeName_of_contains {disk : Disk} {front place : Location}
    (held : disk.nodes.contains (front ++ place) = true) :
    ∀ name ∈ front, isNodeName name = true := by
  intro name member
  obtain ⟨above, below, rfl⟩ := List.append_of_mem member
  rw [List.append_assoc, List.cons_append] at held
  -- Each outer part of a place has a node, under a name that can name one.
  exact (disk.closed name (below ++ place) (contains_above (List.cons_ne_nil _ _) held)).2

/-- The names from an outer place to one below it spell the way between them. -/
theorem below?_eq_some {outer place : Location} {names : List String} :
    below? outer place = some names ↔ names ≠ [] ∧ place = names.reverse ++ outer := by
  -- What is taken from the front of a place is what stands before the outer one.
  unfold below?
  constructor
  · intro found
    split at found
    · rename_i inside
      simp only [Bool.and_eq_true, List.isSuffixOf_iff_suffix, decide_eq_true_eq] at inside
      obtain ⟨⟨front, rfl⟩, longer⟩ := inside
      simp only [List.length_append] at longer
      have filled : front ≠ [] := by
        rintro rfl
        simp at longer
      simp only [List.length_append, Nat.add_sub_cancel, List.take_left',
        Option.some.injEq] at found
      subst found
      exact ⟨by simpa using filled, by simp⟩
    · cases found
  -- The way is not empty, so the place is longer than the outer one.
  · rintro ⟨filled, rfl⟩
    have longer : 0 < names.length := List.length_pos_iff.2 filled
    simp [List.isSuffixOf_iff_suffix, longer]

/-- The table of a disk makes up a visit of what lies below a place. -/
theorem visits_nodesBelow (disk : Disk) (place : Location) :
    disk.Visits place (disk.nodesBelow place) where
  nodup := by
    -- Two entries that are found under the same names have one key and one value.
    refine List.Nodup.filterMap ?_ (List.Nodup.of_map Prod.fst disk.nodes.nodup)
    rintro ⟨key, node⟩ ⟨other, more⟩ ⟨names, last⟩ first second
    simp only [Option.mem_def, Option.map_eq_some_iff, Prod.mk.injEq,
      below?_eq_some] at first second
    obtain ⟨_, ⟨_, rfl⟩, rfl, rfl⟩ := first
    obtain ⟨_, ⟨_, rfl⟩, rfl, rfl⟩ := second
    rfl
  mem_iff names node := by
    simp only [nodesBelow, List.mem_filterMap, Option.map_eq_some_iff, below?_eq_some, node?,
      Table.find?_eq_some_iff]
    constructor
    · rintro ⟨⟨key, held⟩, member, _, ⟨filled, rfl⟩, same⟩
      cases same
      exact ⟨filled, member⟩
    · rintro ⟨filled, member⟩
      exact ⟨_, member, names, ⟨filled, rfl⟩, rfl⟩

/-- An upper bound for the number of names that lead to a node. -/
def depth (disk : Disk) : Nat := disk.nodes.keys.flatten.length

/-- No place with a node is deeper than the disk. -/
theorem length_le_depth {disk : Disk} {place : Location} {node : Node}
    (held : disk.node? place = some node) : place.length ≤ disk.depth := by
  have member : place ∈ disk.nodes.keys :=
    (disk.nodes.contains_iff place).1 (contains_of_node? held)
  exact (List.sublist_flatten_of_mem member).length_le

/-- What is met under one name of a directory: the node that has it, and all that lies below. -/
def under (name : String) (node : Option Node) (deeper : List (List String × Node)) :
    List (List String × Node) :=
  node.toList.map (fun held => ([name], held)) ++ deeper.map fun entry => (name :: entry.1, entry.2)

/-- What is met under a name is the node that has it, or lies deeper. -/
theorem mem_under {name : String} {found : Option Node} {deeper : List (List String × Node)}
    {names : List String} {node : Node} :
    (names, node) ∈ under name found deeper ↔
      names = [name] ∧ found = some node ∨
        ∃ rest, names = name :: rest ∧ (rest, node) ∈ deeper := by
  rw [under, List.mem_append, List.mem_map, List.mem_map]
  -- The two lists that make up the whole are the two cases.
  refine or_congr ⟨?_, ?_⟩ ⟨?_, ?_⟩
  · rintro ⟨held, member, same⟩
    cases same
    exact ⟨rfl, Option.mem_toList.1 member⟩
  · rintro ⟨rfl, held⟩
    exact ⟨node, Option.mem_toList.2 held, rfl⟩
  · rintro ⟨⟨rest, held⟩, member, same⟩
    cases same
    exact ⟨rest, rfl, member⟩
  · rintro ⟨rest, rfl, member⟩
    exact ⟨(rest, node), member, rfl⟩

/-- Nothing is met twice under a name if nothing is met twice below it, nor without a name. -/
theorem nodup_under (name : String) (node : Option Node) {deeper : List (List String × Node)}
    (nodup : deeper.Nodup) (named : ∀ entry ∈ deeper, entry.1 ≠ []) :
    (under name node deeper).Nodup := by
  refine List.Nodup.append ?_ (nodup.map ?_) ?_
  · cases node <;> simp
  · rintro ⟨rest, held⟩ ⟨others, kept⟩ same
    simpa using same
  -- What lies deeper has a second name.
  · rintro entry here below
    obtain ⟨held, _, rfl⟩ := List.mem_map.1 here
    obtain ⟨deep, member, same⟩ := List.mem_map.1 below
    exact named deep member (by simpa using congrArg (List.tail ·.1) same)

/-- An order in which each directory lists the names inside of it. -/
structure Listing (disk : Disk) where
  names : Location → List String
  nodup : ∀ place, (names place).Nodup
  mem_iff : ∀ place name, name ∈ names place ↔ disk.nodes.contains (name :: place) = true

namespace Listing

variable {disk : Disk}

/-- A walk down from a place: each name that is listed there, and after the name of a directory all
that lies below it. -/
def walk (listing : Listing disk) (place : Location) : List (List String × Node) :=
  (listing.names place).flatMap fun name =>
    under name (disk.node? (name :: place))
      (if _inside : disk.node? (name :: place) = some .directory then listing.walk (name :: place)
        else [])
termination_by disk.depth - place.length
decreasing_by
  -- The directory is one name deeper, and no deeper than the disk.
  have bounded := length_le_depth ‹disk.node? (name :: place) = some .directory›
  simp only [List.length_cons] at bounded ⊢
  omega

/-- A walk comes to nodes that are listed, and through directories to what lies below them. -/
theorem mem_walk_iff {listing : Listing disk} {place : Location} {names : List String}
    {node : Node} :
    (names, node) ∈ listing.walk place ↔ ∃ name rest, names = name :: rest ∧
      (rest = [] ∧ disk.node? (name :: place) = some node ∨
        disk.node? (name :: place) = some .directory ∧
          (rest, node) ∈ listing.walk (name :: place)) := by
  -- What has a node is listed, whichever the order is.
  have listed : ∀ {name held}, disk.node? (name :: place) = some held →
      name ∈ listing.names place :=
    fun found => (listing.mem_iff place _).2 (contains_of_node? found)
  rw [walk, List.mem_flatMap]
  simp only [mem_under]
  constructor
  · rintro ⟨name, _, ⟨rfl, found⟩ | ⟨rest, rfl, member⟩⟩
    · exact ⟨name, [], rfl, Or.inl ⟨rfl, found⟩⟩
    -- What lies deeper lies in a directory.
    · by_cases inside : disk.node? (name :: place) = some .directory
      · exact ⟨name, rest, rfl, Or.inr ⟨inside, by simpa [inside] using member⟩⟩
      · simp [inside] at member
  · rintro ⟨name, rest, rfl, ⟨rfl, found⟩ | ⟨inside, member⟩⟩
    · exact ⟨name, listed found, Or.inl ⟨rfl, found⟩⟩
    · exact ⟨name, listed inside, Or.inr ⟨rest, rfl, by simpa [inside] using member⟩⟩

/-- A walk comes to all that lies below its place, and to nothing else. -/
theorem mem_walk (listing : Listing disk) (place : Location) (names : List String) (node : Node) :
    (names, node) ∈ listing.walk place ↔
      names ≠ [] ∧ disk.node? (names.reverse ++ place) = some node := by
  -- The induction is on the names, each of which leads one directory further down.
  induction names generalizing place with
  | nil =>
    rw [mem_walk_iff]
    simp
  | cons first others ih =>
    rw [mem_walk_iff, List.reverse_cons, List.append_assoc, List.singleton_append]
    constructor
    · rintro ⟨name, rest, same, step⟩
      cases same
      refine ⟨List.cons_ne_nil _ _, ?_⟩
      rcases step with ⟨rfl, found⟩ | ⟨_, member⟩
      · exact found
      · exact ((ih _).1 member).2
    -- The walk is at its end, or goes on below the first name.
    · rintro ⟨_, found⟩
      refine ⟨first, others, rfl, ?_⟩
      by_cases last : others = []
      · subst last
        exact Or.inl ⟨rfl, found⟩
      -- The way to a deeper node leads through the directory that has the first name.
      · have through := directory_above (contains_of_node? found) (List.reverse_ne_nil_iff.2 last)
        exact Or.inr ⟨through, (ih _).2 ⟨last, found⟩⟩

/-- A walk comes to no node twice. -/
theorem nodup_walk (listing : Listing disk) (place : Location) : (listing.walk place).Nodup := by
  -- The induction is that of the walk: below each directory, nothing is met twice.
  induction place using walk.induct with
  | case1 place ih =>
    rw [walk]
    refine List.nodup_flatMap.2 ⟨fun name _ => nodup_under name _ ?_ ?_, ?_⟩
    · split
      · rename_i inside
        exact ih name inside
      · exact List.nodup_nil
    · rintro ⟨names, node⟩ member
      split at member
      · exact ((listing.mem_walk _ _ _).1 member).1
      · cases member
    -- What is met under two names starts with one of them, and not with the other.
    · refine (listing.nodup place).imp fun {name other} apart => ?_
      rintro ⟨names, node⟩ first second
      have start : ∀ {name found deeper}, (names, node) ∈ under name found deeper →
          names.head? = some name := by
        intro name found deeper member
        rcases mem_under.1 member with ⟨rfl, _⟩ | ⟨rest, rfl, _⟩ <;> rfl
      exact apart (Option.some.inj ((start first).symm.trans (start second)))

/-- A walk is a visit of all that lies below its place, in whichever order the names are listed. -/
theorem visits_walk (listing : Listing disk) (place : Location) :
    disk.Visits place (listing.walk place) :=
  ⟨listing.nodup_walk place, listing.mem_walk place⟩

/-- The order in which the table of a disk lists the names of each directory. -/
def ofTable (disk : Disk) : Listing disk where
  names place := disk.nodes.keys.filterMap fun key =>
    if key.tail = place then key.head? else none
  nodup place := by
    -- A key is the place together with the name that is listed for it.
    refine disk.nodes.nodup.filterMap fun key other name first second => ?_
    simp only [Option.mem_def, Option.ite_none_right_eq_some] at first second
    rw [← List.cons_head?_tail first.2, ← List.cons_head?_tail second.2, first.1, second.1]
  mem_iff place name := by
    simp only [Table.contains_iff, List.mem_filterMap, Option.ite_none_right_eq_some]
    constructor
    · rintro ⟨key, member, rfl, found⟩
      rwa [List.cons_head?_tail found]
    · intro member
      exact ⟨name :: place, member, rfl, rfl⟩

instance (disk : Disk) : Inhabited (Listing disk) := ⟨ofTable disk⟩

end Listing

end Disk

end Stencil
