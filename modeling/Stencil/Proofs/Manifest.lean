import Stencil.Proofs.Text.LineBreak
import Stencil.Target.Manifest

/-! Laws of manifests: the lines that a text has once new ones were merged into it, and how they add
up when this is done again and again. -/

namespace Stencil

namespace Manifest

/-- First occurrences can be taken before or after items are dropped. -/
theorem firsts_filter (test : String → Bool) (items : List String) :
    firsts (items.filter test) = (firsts items).filter test := by
  -- Dropping an item drops its later occurrences too.
  induction items with
  | nil => rfl
  | cons item rest ih =>
    by_cases passes : test item = true
    · simp only [List.filter_cons, passes, if_true, firsts, ih, List.filter_filter, Bool.and_comm]
    · simp only [List.filter_cons, passes, Bool.false_eq_true, if_false, firsts, ih,
        List.filter_filter]
      refine (List.filter_congr fun other _ => ?_).symm
      by_cases same : other = item
      · subst same
        simpa using passes
      · simp [same]

/-- The first occurrences are what is left once duplicates are erased. -/
theorem firsts_eq_eraseDups (items : List String) : firsts items = items.eraseDups := by
  match items with
  | [] => rfl
  | item :: rest =>
    -- The later occurrences of the first item are dropped before the others are looked at.
    rw [firsts, List.eraseDups_cons, ← firsts_filter, firsts_eq_eraseDups (rest.filter (· != item))]
    rfl
termination_by items.length
decreasing_by exact Nat.lt_succ_of_le (List.length_filter_le _ _)

/-- An item occurs among the first occurrences if it occurs at all. -/
@[simp] theorem mem_firsts {item : String} {items : List String} :
    item ∈ firsts items ↔ item ∈ items := by
  rw [firsts_eq_eraseDups, List.mem_eraseDups]

/-- No item is a first occurrence twice. -/
theorem nodup_firsts (items : List String) : (firsts items).Nodup := by
  -- Each item is dropped from those behind it.
  induction items with
  | nil => exact List.nodup_nil
  | cons item rest ih => exact List.nodup_cons.2 ⟨by simp, ih.filter _⟩

/-- First occurrences that were taken once can be taken again together with further items. -/
theorem firsts_append (items more : List String) :
    firsts (firsts items ++ more) = firsts (items ++ more) := by
  -- Behind the first item, both sides are first occurrences without it.
  induction items with
  | nil => rfl
  | cons item rest ih =>
    have behind : ∀ list, (firsts (list.filter (· != item) ++ more)).filter (· != item) =
        (firsts (list ++ more)).filter (· != item) := by
      intro list
      rw [← firsts_filter, ← firsts_filter, List.filter_append, List.filter_append,
        List.filter_filter]
      simp only [Bool.and_self]
    simp only [firsts, List.cons_append, behind, ih]

/-- Items that came before add nothing to the first occurrences. -/
theorem firsts_append_inside {items repeated : List String}
    (inside : ∀ item ∈ repeated, item ∈ items) (more : List String) :
    firsts (items ++ (repeated ++ more)) = firsts (items ++ more) := by
  -- What follows some items adds the first occurrences of what is not among them.
  have known : repeated.removeAll items = [] := by
    simpa [List.removeAll, List.filter_eq_nil_iff] using inside
  have split : (repeated ++ more).removeAll items =
      repeated.removeAll items ++ more.removeAll items := List.filter_append ..
  rw [firsts_eq_eraseDups, firsts_eq_eraseDups, List.eraseDups_append, List.eraseDups_append,
    split, known, List.nil_append]

/-- First occurrences come first among those of a longer list. -/
theorem firsts_prefix (items more : List String) : firsts items <+: firsts (items ++ more) := by
  rw [firsts_eq_eraseDups, firsts_eq_eraseDups, List.eraseDups_append]
  exact List.prefix_append _ _

/-- Empty lines can be dropped before they are merged. -/
theorem merge_eq (earlier new : List String) :
    merge earlier new = firsts (earlier.filter (· != "") ++ new.filter (· != "")) := by
  rw [merge, ← firsts_filter, List.filter_append]

/-- Lines that came before need not be merged again. -/
theorem merge_inside (earlier : List String) {lines repeated : List String}
    (inside : ∀ line ∈ repeated, line ∈ lines) (more : List String) :
    merge earlier (lines ++ (repeated ++ more)) = merge earlier (lines ++ more) := by
  have known : ∀ line ∈ repeated, line ∈ earlier ++ lines :=
    fun line member => List.mem_append_right _ (inside line member)
  rw [merge, merge, ← List.append_assoc earlier, ← List.append_assoc earlier,
    firsts_append_inside known]

/-- Tests whether a line is kept for good: it is neither empty nor a comment. -/
def isEntry (line : String) : Bool := !isComment line && line != ""

/-- The text of entries without line breaks has these entries as its lines. -/
theorem lines_toText {entries : List String}
    (unbroken : ∀ entry ∈ entries, isUnbroken entry = true) : lines (toText entries) = entries :=
  lines_join unbroken

/-- Merged entries hold no line break if the new lines hold none. -/
theorem unbroken_of_mem_merge (existing : String) {new : List String}
    (unbroken : ∀ line ∈ new, isUnbroken line = true) :
    ∀ entry ∈ merge (kept existing) new, isUnbroken entry = true := by
  -- What was kept are lines of the earlier text.
  intro entry member
  have inside : entry ∈ kept existing ++ new := mem_firsts.1 (List.mem_filter.1 member).1
  rcases List.mem_append.1 inside with earlier | later
  · exact isUnbroken_of_mem_lines (List.mem_filter.1 earlier).1
  · exact unbroken entry later

/-- A text into which lines were merged has the merged entries as its lines. -/
theorem lines_update (existing : String) {new : List String}
    (unbroken : ∀ line ∈ new, isUnbroken line = true) :
    lines (update existing new) = merge (kept existing) new :=
  lines_toText (unbroken_of_mem_merge existing unbroken)

/-- A text is a manifest to which some lines have added up: its entries are the first occurrences of
theirs, its comments are the first occurrences of the latest ones alone, no line is empty or occurs
twice, and a line feed ends each. -/
structure Accumulated (all latest : List String) (text : String) : Prop where
  entries : (lines text).filter (fun line => !isComment line) = (all.filter isEntry).eraseDups
  comments : (lines text).filter isComment = (latest.filter isComment).eraseDups
  filled : "" ∉ lines text
  nodup : (lines text).Nodup
  ended : text = toText (lines text)

/-- The comments that a manifest does not keep are no entries of it. -/
theorem filter_isEntry_kept (existing : String) :
    (kept existing).filter isEntry = (lines existing).filter isEntry := by
  simp only [kept, List.filter_filter]
  refine List.filter_congr fun line _ => ?_
  cases comment : isComment line <;> simp [isEntry, comment]

/-- A manifest keeps no comment of its earlier text. -/
theorem filter_isComment_kept (existing : String) : (kept existing).filter isComment = [] := by
  simp [kept, List.filter_filter]

/-- Merging lines into any text makes a manifest to which the lines of both add up. -/
theorem accumulated_update (existing : String) {new : List String}
    (unbroken : ∀ line ∈ new, isUnbroken line = true) :
    Accumulated (lines existing ++ new) new (update existing new) := by
  have merged := lines_update existing unbroken
  -- The parts are the entries, the comments, the empty lines, the repetitions and the text.
  refine ⟨?_, ?_, ?_, ?_, ?_⟩
  -- The comments that were not kept would have been dropped here anyway.
  · rw [merged, ← firsts_eq_eraseDups]
    calc (merge (kept existing) new).filter (fun line => !isComment line)
        = (firsts (kept existing ++ new)).filter isEntry := List.filter_filter
      _ = firsts ((kept existing ++ new).filter isEntry) := (firsts_filter _ _).symm
      _ = firsts ((lines existing ++ new).filter isEntry) := by
          rw [List.filter_append, List.filter_append, filter_isEntry_kept]
  -- An empty line is no comment, so none is dropped for being empty.
  · have commented : ∀ line, (isComment line && line != "") = isComment line := by
      intro line
      by_cases empty : line = ""
      · subst empty
        rfl
      · simp [empty]
    rw [merged, ← firsts_eq_eraseDups]
    calc (merge (kept existing) new).filter isComment
        = (firsts (kept existing ++ new)).filter isComment := by
          simp only [merge, List.filter_filter, commented]
      _ = firsts ((kept existing ++ new).filter isComment) := (firsts_filter _ _).symm
      _ = firsts (new.filter isComment) := by
          rw [List.filter_append, filter_isComment_kept, List.nil_append]
  · rw [merged]
    simp [merge]
  · rw [merged]
    exact (nodup_firsts _).filter _
  · rw [merged]
    rfl

/-- Lines that are merged into a manifest add to those that have added up in it. -/
theorem Accumulated.update {all latest : List String} {text : String}
    (accumulated : Accumulated all latest text) {new : List String}
    (unbroken : ∀ line ∈ new, isUnbroken line = true) :
    Accumulated (all ++ new) new (update text new) := by
  obtain ⟨entries, comments, filled, nodup, ended⟩ := accumulated_update text unbroken
  -- The entries of the manifest are first occurrences already.
  have before : (lines text).filter isEntry = firsts (all.filter isEntry) := by
    rw [firsts_eq_eraseDups, ← accumulated.entries]
    refine List.filter_congr fun line member => ?_
    have full : line ≠ "" := fun empty => accumulated.filled (empty ▸ member)
    simp [isEntry, full]
  refine ⟨?_, comments, filled, nodup, ended⟩
  rw [entries, ← firsts_eq_eraseDups, ← firsts_eq_eraseDups, List.filter_append,
    List.filter_append, before, firsts_append]

/-- Earlier lines are merged as the entries among them. -/
theorem filled_kept (existing : String) :
    (kept existing).filter (· != "") = (lines existing).filter isEntry := by
  rw [kept, List.filter_filter]
  exact List.filter_congr fun line _ => Bool.and_comm _ _

/-- Merging lines puts the first occurrences of the earlier entries in front. -/
theorem entries_prefix_update (existing : String) {new : List String}
    (unbroken : ∀ line ∈ new, isUnbroken line = true) :
    ((lines existing).filter isEntry).eraseDups <+: lines (update existing new) := by
  rw [lines_update existing unbroken, merge_eq, filled_kept, ← firsts_eq_eraseDups]
  exact firsts_prefix _ _

/-- Lines that have added up already add no entry. -/
theorem entries_again (all new : List String) :
    ((all ++ new ++ new).filter isEntry).eraseDups = ((all ++ new).filter isEntry).eraseDups := by
  -- The entries of the lines stand there from the first time on.
  have inside : ∀ line ∈ new.filter isEntry, line ∈ (all ++ new).filter isEntry := by
    intro line member
    rw [List.filter_append]
    exact List.mem_append_right _ member
  have same := firsts_append_inside inside []
  rw [List.append_nil, List.append_nil, ← List.filter_append] at same
  rw [← firsts_eq_eraseDups, ← firsts_eq_eraseDups, same]

/-- A manifest whose latest lines hold no comment consists of its entries. -/
theorem Accumulated.lines_plain {all latest : List String} {text : String}
    (accumulated : Accumulated all latest text)
    (plain : ∀ line ∈ latest, isComment line = false) :
    lines text = (all.filter isEntry).eraseDups := by
  -- The comments of a manifest are those of the latest lines.
  have none : (lines text).filter isComment = [] := by
    have plainly : latest.filter isComment = [] :=
      List.filter_eq_nil_iff.2 fun line member => by simp [plain line member]
    rw [accumulated.comments, plainly]
    rfl
  rw [← accumulated.entries]
  refine (List.filter_eq_self.2 fun line member => ?_).symm
  simpa using List.filter_eq_nil_iff.1 none line member

/-- Merging lines without a comment once more changes nothing. -/
theorem update_update_plain (existing : String) {new : List String}
    (unbroken : ∀ line ∈ new, isUnbroken line = true)
    (plain : ∀ line ∈ new, isComment line = false) :
    update (update existing new) new = update existing new := by
  -- Both manifests consist of their entries, and the lines add none the second time.
  have once := accumulated_update existing unbroken
  have twice := once.update unbroken
  have same : lines (update (update existing new) new) = lines (update existing new) := by
    rw [twice.lines_plain plain, entries_again, once.lines_plain plain]
  rw [twice.ended, same, ← once.ended]

/-- Merging the same lines a third time changes nothing. -/
theorem update_update_update (existing : String) {new : List String}
    (unbroken : ∀ line ∈ new, isUnbroken line = true) :
    update (update (update existing new) new) new = update (update existing new) new := by
  -- The first two manifests have the same entries, and a merge keeps nothing else.
  have once := accumulated_update existing unbroken
  have same : kept (update (update existing new) new) = kept (update existing new) :=
    (once.update unbroken).entries.trans ((entries_again _ _).trans once.entries.symm)
  rw [update, same, ← update]

end Manifest

end Stencil
