import Stencil.Table

/-! Laws of tables into which several pairs are stored: which value is found for a key, and where
new keys go. -/

namespace Stencil

/-- A key is looked for in a list, and in another one only if the first lacks it. -/
theorem findEntry_append {κ α : Type} [DecidableEq κ] (key : κ) (front back : List (κ × α)) :
    findEntry key (front ++ back) = (findEntry key front).or (findEntry key back) := by
  induction front with
  | nil => rfl
  | cons entry rest ih =>
    -- The first entry decides if it has the key.
    by_cases same : entry.1 = key
    · simp [findEntry, same]
    · simp [findEntry, same, ih]

/-- A key is not found exactly if it is not among the keys. -/
theorem findEntry_eq_none {κ α : Type} [DecidableEq κ] {key : κ} {entries : List (κ × α)} :
    findEntry key entries = none ↔ key ∉ entries.map Prod.fst := by
  rw [← findEntry_isSome, Bool.not_eq_true, Option.isSome_eq_false_iff, Option.isNone_iff_eq_none]

namespace Table

variable {κ α : Type} [DecidableEq κ]

/-- Of pairs that are stored in order, the last one of a key is found. -/
theorem find?_putAll (table : Table κ α) (pairs : List (κ × α)) (key : κ) :
    (table.putAll pairs).find? key = (findEntry key pairs.reverse).or (table.find? key) := by
  -- The first pair is stored first, so that all others override it.
  induction pairs generalizing table with
  | nil => rfl
  | cons pair rest ih =>
    have stored : table.putAll (pair :: rest) = (table.put pair.1 pair.2).putAll rest := rfl
    rw [stored, ih, find?_put, List.reverse_cons, findEntry_append, Option.or_assoc]
    by_cases same : key = pair.1
    · simp [findEntry, same]
    · simp [findEntry, same, Ne.symm same]

/-- Pairs that are stored in order add the new ones among their keys, in the order in which they
first appear. -/
theorem keys_putAll (table : Table κ α) (pairs : List (κ × α)) :
    (table.putAll pairs).keys =
      table.keys ++ ((pairs.map Prod.fst).filter fun key => key ∉ table.keys).eraseDups := by
  induction pairs generalizing table with
  | nil => simp [putAll]
  | cons pair rest ih =>
    have stored : table.putAll (pair :: rest) = (table.put pair.1 pair.2).putAll rest := rfl
    rw [stored, ih, keys_put]
    by_cases known : pair.1 ∈ table.keys
    · simp [known]
    -- A new key is left out of what comes later.
    · simp only [known, if_false, List.map_cons, List.filter_cons, not_false_eq_true, decide_true,
        if_true, List.eraseDups_cons, List.append_assoc, List.singleton_append, List.filter_filter]
      congr 3
      refine List.filter_congr fun key _ => ?_
      by_cases same : key = pair.1 <;> simp [same]

/-- A pair can be left out if a later one has its key. -/
theorem find?_putAll_drop (table : Table κ α) (front : List (κ × α)) {back : List (κ × α)}
    {key : κ} (value : α) (again : key ∈ back.map Prod.fst) (other : κ) :
    (table.putAll (front ++ (key, value) :: back)).find? other =
      (table.putAll (front ++ back)).find? other := by
  simp only [find?_putAll, List.reverse_append, List.reverse_cons, findEntry_append,
    Option.or_assoc]
  by_cases same : other = key
  -- The later pair is found on both sides.
  · subst same
    have found : findEntry other back.reverse ≠ none := by
      rw [Ne, findEntry_eq_none, List.map_reverse, List.mem_reverse, Classical.not_not]
      exact again
    obtain ⟨held, later⟩ := Option.ne_none_iff_exists'.1 found
    simp [later]
  · simp [findEntry, Ne.symm same]

/-- Tables in which the same is found have the same keys, but for their order. -/
theorem keys_perm {first second : Table κ α}
    (same : ∀ key, first.find? key = second.find? key) : first.keys.Perm second.keys := by
  -- No key occurs twice, so it is enough to look at which of them occur.
  refine (List.perm_ext_iff_of_nodup first.nodup second.nodup).2 fun key => ?_
  exact (first.contains_iff key).symm.trans
    ((by rw [contains, same, ← contains] : first.contains key ↔ second.contains key).trans
      (second.contains_iff key))

end Table

end Stencil
