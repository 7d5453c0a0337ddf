/-! Ordered tables: finite maps in which a key keeps the place where it was first put. -/

namespace Stencil

/-- Overwrites the value of a key in place, or adds the key at the end. -/
def putEntry {κ α : Type} [DecidableEq κ] (key : κ) (value : α) : List (κ × α) → List (κ × α)
  | [] => [(key, value)]
  | entry :: rest =>
    if entry.1 = key then (key, value) :: rest else entry :: putEntry key value rest

/-- The value stored for a key. -/
def findEntry {κ α : Type} [DecidableEq κ] (key : κ) : List (κ × α) → Option α
  | [] => none
  | entry :: rest => if entry.1 = key then some entry.2 else findEntry key rest

/-- Putting an entry keeps the order of the keys and adds only a new one. -/
theorem keys_putEntry {κ α : Type} [DecidableEq κ] (key : κ) (value : α)
    (entries : List (κ × α)) :
    (putEntry key value entries).map Prod.fst =
      if key ∈ entries.map Prod.fst then entries.map Prod.fst
      else entries.map Prod.fst ++ [key] := by
  -- The walk stops at the key if it is there, and otherwise reaches the end.
  induction entries with
  | nil => simp [putEntry]
  | cons entry rest ih =>
    by_cases same : entry.1 = key
    · simp [putEntry, same]
    · have other : key ≠ entry.1 := fun h => same h.symm
      by_cases member : key ∈ rest.map Prod.fst
      · simp only [putEntry, if_neg same, List.map_cons, ih, List.mem_cons, member, or_true,
          if_true]
      · simp only [putEntry, if_neg same, List.map_cons, ih, List.mem_cons, other, member, or_self,
          if_false, List.cons_append]

/-- The entry just put is found, and every other key reads as before. -/
theorem findEntry_putEntry {κ α : Type} [DecidableEq κ] (key other : κ) (value : α)
    (entries : List (κ × α)) :
    findEntry other (putEntry key value entries) =
      if other = key then some value else findEntry other entries := by
  -- Both functions walk the same list, so the cases are those of one step.
  induction entries with
  | nil => simp [putEntry, findEntry, eq_comm]
  | cons entry rest ih =>
    by_cases same : entry.1 = key
    · by_cases h : other = key
      · simp [putEntry, findEntry, same, h]
      · have away : key ≠ other := fun e => h e.symm
        simp [putEntry, findEntry, same, h, away]
    · by_cases found : entry.1 = other
      · have away : other ≠ key := fun e => same (found.trans e)
        simp [putEntry, findEntry, found, away]
      · simp [putEntry, findEntry, same, found, ih]

/-- Of two values put for one key, the later one stays. -/
theorem putEntry_putEntry {κ α : Type} [DecidableEq κ] (key : κ) (first second : α)
    (entries : List (κ × α)) :
    putEntry key second (putEntry key first entries) = putEntry key second entries := by
  -- Both walks stop at the same entry.
  induction entries with
  | nil => simp [putEntry]
  | cons entry rest ih => by_cases same : entry.1 = key <;> simp [putEntry, same, ih]

/-- A value put where none of interest was adds its own interest to that of the others. -/
theorem filterMap_putEntry {κ α β : Type} [DecidableEq κ] (interest : α → Option β) (key : κ)
    (value : α) (entries : List (κ × α))
    (fresh : ∀ held, findEntry key entries = some held → interest held = none) :
    (((putEntry key value entries).map Prod.snd).filterMap interest).Perm
      ((interest value).toList ++ (entries.map Prod.snd).filterMap interest) := by
  -- The entry where the walk stops held nothing of interest, and the others keep their order.
  induction entries with
  | nil => simp [putEntry, List.filterMap_cons]; cases interest value <;> simp
  | cons entry rest ih =>
    by_cases same : entry.1 = key
    · have nothing := fresh entry.2 (by simp [findEntry, same])
      simp only [putEntry, same, if_true, List.map_cons, List.filterMap_cons, nothing]
      cases interest value <;> simp
    · have tail := ih fun held found => fresh held (by simp [findEntry, same, found])
      simp only [putEntry, same, if_false, List.map_cons, List.filterMap_cons]
      cases interest entry.2 with
      | none => exact tail
      | some first => exact (tail.cons first).trans List.perm_middle.symm

/-- A key is found exactly if it is among the keys. -/
theorem findEntry_isSome {κ α : Type} [DecidableEq κ] (key : κ) (entries : List (κ × α)) :
    (findEntry key entries).isSome = true ↔ key ∈ entries.map Prod.fst := by
  induction entries with
  | nil => simp [findEntry]
  | cons entry rest ih =>
    by_cases same : entry.1 = key
    · simp [findEntry, same]
    · simp [findEntry, same, ih, Ne.symm same]

/-- A finite map that remembers the order in which its keys were first put. -/
structure Table (κ α : Type) where
  entries : List (κ × α)
  nodup : (entries.map Prod.fst).Nodup

namespace Table

variable {κ α : Type}

/-- The table with no entry. -/
def empty : Table κ α := ⟨[], List.nodup_nil⟩

instance : Inhabited (Table κ α) := ⟨empty⟩

/-- The keys in the order in which they were first put. -/
def keys (table : Table κ α) : List κ := table.entries.map Prod.fst

/-- The values in the order of their keys. -/
def values (table : Table κ α) : List α := table.entries.map Prod.snd

/-- The number of keys. -/
def size (table : Table κ α) : Nat := table.entries.length

/-- Keeps the entries whose key passes a test. -/
def filterKeys (test : κ → Bool) (table : Table κ α) : Table κ α :=
  ⟨table.entries.filter fun entry => test entry.1,
    table.nodup.sublist (List.filter_sublist.map Prod.fst)⟩

variable [DecidableEq κ]

/-- The value stored for a key. -/
def find? (table : Table κ α) (key : κ) : Option α := findEntry key table.entries

/-- Tests whether a key is present. -/
def contains (table : Table κ α) (key : κ) : Bool := (table.find? key).isSome

/-- Stores a value: a known key keeps its place, a new one goes to the end. -/
def put (table : Table κ α) (key : κ) (value : α) : Table κ α :=
  ⟨putEntry key value table.entries, by
    -- A new key differs from all the others, and a known one adds nothing.
    rw [keys_putEntry]
    split
    · exact table.nodup
    · rename_i absent
      refine List.nodup_append.2 ⟨table.nodup, by simp, ?_⟩
      intro a member b single
      simp only [List.mem_singleton] at single
      subst single
      exact fun same => absent (same ▸ member)⟩

/-- Stores the pairs of a list one after the other. -/
def putAll (table : Table κ α) (pairs : List (κ × α)) : Table κ α :=
  pairs.foldl (fun current pair => current.put pair.1 pair.2) table

/-- Builds a table in which a repeated key keeps its first place and its last value. -/
def ofList (pairs : List (κ × α)) : Table κ α := empty.putAll pairs

/-- The stored value is found again, and every other key reads as before. -/
theorem find?_put (table : Table κ α) (key other : κ) (value : α) :
    (table.put key value).find? other = if other = key then some value else table.find? other :=
  findEntry_putEntry key other value table.entries

/-- Of two values stored for one key, the later one stays. -/
theorem put_put (table : Table κ α) (key : κ) (first second : α) :
    (table.put key first).put key second = table.put key second := by
  simp only [put, putEntry_putEntry]

/-- A value stored where none of interest was adds its own interest to that of the others. -/
theorem filterMap_put {β : Type} (table : Table κ α) (interest : α → Option β) (key : κ) (value : α)
    (fresh : ∀ held, table.find? key = some held → interest held = none) :
    ((table.put key value).values.filterMap interest).Perm
      ((interest value).toList ++ table.values.filterMap interest) :=
  filterMap_putEntry interest key value table.entries fresh

/-- A key is present exactly if it is among the keys. -/
theorem contains_iff (table : Table κ α) (key : κ) :
    table.contains key = true ↔ key ∈ table.keys :=
  findEntry_isSome key table.entries

/-- A value that is found is among the values. -/
theorem mem_values_of_find? {table : Table κ α} {key : κ} {value : α}
    (found : table.find? key = some value) : value ∈ table.values := by
  -- The walk stops at the entry that holds the value.
  obtain ⟨entries, nodup⟩ := table
  simp only [find?, values] at found ⊢
  clear nodup
  induction entries with
  | nil => simp [findEntry] at found
  | cons entry rest ih =>
    by_cases same : entry.1 = key
    · simp only [findEntry, same, if_true, Option.some.injEq] at found
      simp [found]
    · simp only [findEntry, same, if_false] at found
      exact List.mem_cons_of_mem _ (ih found)

/-- The values are what is found for the keys, in the same order. -/
theorem map_find?_keys (table : Table κ α) :
    table.keys.map table.find? = table.values.map some := by
  -- The first entry of a key is the only one, so it is the one that is found.
  obtain ⟨entries, nodup⟩ := table
  show (entries.map Prod.fst).map (fun key => findEntry key entries) =
    (entries.map Prod.snd).map some
  induction entries with
  | nil => rfl
  | cons entry rest ih =>
    obtain ⟨apart, distinct⟩ := List.nodup_cons.1 nodup
    have others : ∀ key ∈ rest.map Prod.fst,
        findEntry key (entry :: rest) = findEntry key rest := by
      intro key member
      have different : entry.1 ≠ key := fun same => apart (same ▸ member)
      simp [findEntry, different]
    rw [List.map_cons, List.map_cons, List.map_cons, List.map_cons, List.map_congr_left others,
      ih distinct]
    simp [findEntry]

/-- What is of interest in the values is found under the keys, in the same order. -/
theorem filterMap_values {β : Type} (table : Table κ α) {interest : α → Option β} {fresh : α}
    (absent : interest fresh = none) :
    table.values.filterMap interest =
      table.keys.filterMap fun key => interest ((table.find? key).getD fresh) := by
  have all := congrArg (List.filterMap fun value => Option.bind value interest)
    table.map_find?_keys
  rw [List.filterMap_map, List.filterMap_map] at all
  -- What is not there is of no interest.
  have same : ∀ value : Option α, value.bind interest = interest (value.getD fresh) := by
    intro value
    cases value with
    | none => exact absent.symm
    | some value => rfl
  simp only [Function.comp_def, same, Option.getD_some] at all
  exact all.symm

/-- A kept key reads as before, and a dropped one is absent. -/
theorem find?_filterKeys (table : Table κ α) (test : κ → Bool) (key : κ) :
    (table.filterKeys test).find? key = if test key then table.find? key else none := by
  -- The first entry of a key is kept or dropped together with all of its entries.
  obtain ⟨entries, nodup⟩ := table
  simp only [filterKeys, find?]
  clear nodup
  induction entries with
  | nil => simp [findEntry]
  | cons entry rest ih =>
    by_cases kept : test entry.1 <;> by_cases same : entry.1 = key
    · subst same; simp [findEntry, kept]
    · simp [findEntry, kept, same, ih]
    · subst same; simp [kept, ih]
    · simp [findEntry, kept, same, ih]

/-- Storing keeps the order of the keys and adds only a new one. -/
theorem keys_put (table : Table κ α) (key : κ) (value : α) :
    (table.put key value).keys =
      if key ∈ table.keys then table.keys else table.keys ++ [key] :=
  keys_putEntry key value table.entries

/-- The keys after storing are the stored one and those that were there. -/
theorem mem_keys_put {table : Table κ α} {key other : κ} {value : α} :
    other ∈ (table.put key value).keys ↔ other = key ∨ other ∈ table.keys := by
  -- A key that is new comes last.
  rw [keys_put]
  split
  · rename_i known
    exact ⟨Or.inr, fun either => either.elim (fun same => same ▸ known) id⟩
  · simp [or_comm]

/-- The value of a new key goes to the end. -/
theorem entries_put_of_absent {table : Table κ α} {key : κ} (absent : table.find? key = none)
    (value : α) : (table.put key value).entries = table.entries ++ [(key, value)] := by
  obtain ⟨entries, nodup⟩ := table
  simp only [find?, put] at absent ⊢
  clear nodup
  -- The walk passes every entry, as none of them holds the key.
  induction entries with
  | nil => rfl
  | cons entry rest ih =>
    by_cases same : entry.1 = key
    · simp [findEntry, same] at absent
    · simp only [findEntry, if_neg same] at absent
      simp [putEntry, same, ih absent]

/-- A value is found for a key exactly if the two are an entry. -/
theorem find?_eq_some_iff (table : Table κ α) (key : κ) (value : α) :
    table.find? key = some value ↔ (key, value) ∈ table.entries := by
  obtain ⟨entries, nodup⟩ := table
  simp only [find?]
  induction entries with
  | nil => simp [findEntry]
  | cons entry rest ih =>
    obtain ⟨apart, distinct⟩ := List.nodup_cons.1 nodup
    by_cases same : entry.1 = key
    -- No later entry has the key of this one.
    · have absent : (key, value) ∉ rest := fun member =>
        apart (List.mem_map.2 ⟨_, member, same.symm⟩)
      obtain ⟨_, held⟩ := entry
      simp only at same
      subst same
      simp [findEntry, absent, eq_comm]
    · have other : (key, value) ≠ entry := fun equal => same (equal ▸ rfl)
      simp [findEntry, same, other, ih distinct]

end Table

end Stencil
