import Mathlib.Data.List.DropRight
import Stencil.Text.Blank

/-! Laws of cutting and stripping: the pieces of a list that is put together, and what is left of it
when its end is dropped. -/

namespace Stencil

/-- A separator ends the pieces before it, and those after it are cut on their own. -/
theorem cutAt_append_separator {α : Type} (test : α → Bool) (left : List α) {separator : α}
    (right : List α) (holds : test separator = true) :
    cutAt test (left ++ separator :: right) = cutAt test left ++ cutAt test right := by
  -- The walk over the left side reaches the separator with the last piece still open.
  induction left with
  | nil => simp [cutAt, holds]
  | cons item rest ih =>
    simp only [List.cons_append, cutAt, ih]
    split
    · rfl
    · cases pieces : cutAt test rest with
      | nil => exact absurd pieces (cutAt_ne_nil test rest)
      | cons piece more => rfl

/-- A list without separators is one piece. -/
theorem cutAt_eq_singleton {α : Type} {test : α → Bool} {items : List α}
    (clean : ∀ item ∈ items, test item = false) : cutAt test items = [items] := by
  -- Each item joins the piece that the others make.
  induction items with
  | nil => rfl
  | cons item rest ih =>
    have later := ih fun other member => clean other (List.mem_cons_of_mem _ member)
    simp [cutAt, clean item List.mem_cons_self, later]

/-- Cutting a list is what the library calls splitting it. -/
theorem cutAt_eq_splitOnP {α : Type} (test : α → Bool) (items : List α) :
    cutAt test items = items.splitOnP test := by
  -- An item that passes opens an empty piece, and any other one joins the first piece.
  induction items with
  | nil => rfl
  | cons item rest ih =>
    rw [cutAt, List.splitOnP_cons_eq_if_modifyHead, ← ih]
    split
    · rfl
    · cases pieces : cutAt test rest with
      | nil => exact absurd pieces (cutAt_ne_nil test rest)
      | cons piece more => rfl

/-- Replacing every separator by a mark, and ending with one, puts a mark after each piece. -/
theorem replace_separators (separator mark : Char) (chars : List Char) :
    (chars.map fun c => if c == separator then mark else c) ++ [mark] =
      (cutAt (· == separator) chars).flatMap (· ++ [mark]) := by
  -- A separator closes an empty piece, and any other character joins the first one.
  induction chars with
  | nil => rfl
  | cons c rest ih =>
    by_cases same : c = separator
    · simp [cutAt, same, ← ih]
    · have other : (c == separator) = false := by simpa using same
      simp only [List.map_cons, List.cons_append, cutAt, other, Bool.false_eq_true, if_false, ih]
      cases pieces : cutAt (· == separator) rest with
      | nil => exact absurd pieces (cutAt_ne_nil _ rest)
      | cons piece more => rfl

/-- Dropping from the end reaches the front part only if nothing of the back part is left. -/
theorem dropEndWhile_append {α : Type} (test : α → Bool) (front back : List α) :
    dropEndWhile test (front ++ back) =
      if dropEndWhile test back = [] then dropEndWhile test front
      else front ++ dropEndWhile test back := by
  -- Read backwards, the back part comes first.
  unfold dropEndWhile
  rw [List.reverse_append, List.dropWhile_append]
  by_cases nothing : List.dropWhile test back.reverse = []
  · simp [nothing]
  · simp [nothing]

/-- The first item is dropped from the end only if nothing behind it is left. -/
theorem dropEndWhile_cons {α : Type} (test : α → Bool) (first : α) (rest : List α) :
    dropEndWhile test (first :: rest) =
      if dropEndWhile test rest = [] then if test first then [] else [first]
      else first :: dropEndWhile test rest := by
  have alone : dropEndWhile test [first] = if test first then [] else [first] :=
    List.rdropWhile_singleton test first
  rw [← List.singleton_append, dropEndWhile_append, alone, List.singleton_append]

/-- What is left when the end is dropped is nothing, or ends in an item that fails the test. -/
theorem dropEndWhile_ending {α : Type} (test : α → Bool) (items : List α) :
    dropEndWhile test items = [] ∨
      ∃ front last, dropEndWhile test items = front ++ [last] ∧ test last = false := by
  rcases List.eq_nil_or_concat (dropEndWhile test items) with nothing | ⟨front, last, ending⟩
  · exact Or.inl nothing
  -- The library speaks of the last item of what is left.
  · have some : dropEndWhile test items ≠ [] := by simp [ending]
    have fails := List.rdropWhile_last_not test items some
    refine Or.inr ⟨front, last, by simpa using ending, ?_⟩
    have same : (dropEndWhile test items).getLast some = last := by simp [ending]
    rw [← same]
    exact Bool.eq_false_iff.2 fails

/-- What is left when both ends are dropped begins with an item that fails the test. -/
theorem head_dropEndsWhile {α : Type} {test : α → Bool} {items rest : List α} {first : α}
    (left : dropEndsWhile test items = first :: rest) : test first = false := by
  -- The end is dropped from what begins with this item already.
  have start : dropEndsWhile test items <+: items.dropWhile test :=
    List.rdropWhile_prefix test (items.dropWhile test)
  obtain ⟨dropped, whole⟩ := start
  have fails := List.head?_dropWhile_not test items
  rwa [← whole, left] at fails

/-- What is left when both ends are dropped was there before. -/
theorem infix_dropEndsWhile {α : Type} (test : α → Bool) (items : List α) :
    dropEndsWhile test items <:+: items :=
  (List.rdropWhile_prefix test (items.dropWhile test)).isInfix.trans
    (List.dropWhile_suffix test).isInfix

/-- An item at the end that passes the test makes no difference to what is left. -/
theorem dropEndsWhile_concat {α : Type} {test : α → Bool} (items : List α) {last : α}
    (passes : test last = true) :
    dropEndsWhile test (items ++ [last]) = dropEndsWhile test items := by
  have alone : dropEndWhile test [last] = [] := by simp [dropEndWhile, passes]
  rw [dropEndsWhile, dropEndsWhile, List.dropWhile_append]
  -- If all items in front go, the last one goes as well.
  by_cases nothing : items.dropWhile test = []
  · simp [nothing, passes]
  · simp [nothing, dropEndWhile_append, alone]

/-- Nothing is dropped if neither the first item nor the last one passes the test. -/
theorem dropEndsWhile_eq_self {α : Type} {test : α → Bool} {items : List α}
    (first : ∀ item ∈ items.head?, test item = false)
    (last : ∀ item ∈ items.getLast?, test item = false) : dropEndsWhile test items = items := by
  have start : items.dropWhile test = items := by
    cases items with
    | nil => rfl
    | cons item rest => simp [first item rfl]
  rw [dropEndsWhile, start]
  refine List.rdropWhile_eq_self_iff.2 fun some => ?_
  simp [last _ (List.getLast?_eq_some_getLast some)]

/-- Dropping both ends keeps all items that fail the test. -/
theorem filter_dropEndsWhile {α : Type} (test : α → Bool) (items : List α) :
    (dropEndsWhile test items).filter (fun item => !test item) =
      items.filter fun item => !test item := by
  -- From the front, items are dropped while they pass; from the end, likewise read backwards.
  have front : ∀ items : List α, (items.dropWhile test).filter (fun item => !test item) =
      items.filter fun item => !test item := by
    intro items
    induction items with
    | nil => rfl
    | cons item rest ih => by_cases passes : test item <;> simp [passes, ih]
  rw [dropEndsWhile, dropEndWhile, List.filter_reverse, front, ← List.filter_reverse,
    List.reverse_reverse, front]

/-- Blanks at both ends are all that a text consists of exactly if nothing is left without them. -/
theorem strip_eq_empty_iff {text : String} :
    strip text = "" ↔ ∀ c ∈ text.toList, isBlank c = true := by
  rw [strip, ← String.toList_inj, String.toList_ofList]
  constructor
  · intro nothing c member
    -- A character that is no blank would be left.
    by_contra solid
    have kept := filter_dropEndsWhile isBlank text.toList
    rw [show dropEndsWhile isBlank text.toList = [] from nothing] at kept
    have : c ∈ text.toList.filter fun item => !isBlank item := by simpa [member] using solid
    rw [← kept] at this
    cases this
  · intro blank
    have front : text.toList.dropWhile isBlank = [] := List.dropWhile_eq_nil_iff.2 blank
    rw [dropEndsWhile, front]
    rfl

end Stencil
