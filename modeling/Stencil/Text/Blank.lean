/-! Blank characters, and the ways in which text is cut at them. -/

namespace Stencil

/-- The characters that count as blank: controls that separate, and every Unicode space. -/
def isBlank (c : Char) : Bool :=
  let n := c.toNat
  (0x09 ≤ n && n ≤ 0x0D) || (0x1C ≤ n && n ≤ 0x20) || n == 0x85 || n == 0xA0 || n == 0x1680 ||
    (0x2000 ≤ n && n ≤ 0x200A) || n == 0x2028 || n == 0x2029 || n == 0x202F || n == 0x205F ||
    n == 0x3000

/-- Drops the characters at the end that pass a test. -/
def dropEndWhile {α : Type} (test : α → Bool) (items : List α) : List α :=
  (items.reverse.dropWhile test).reverse

/-- Drops the characters at both ends that pass a test. -/
def dropEndsWhile {α : Type} (test : α → Bool) (items : List α) : List α :=
  dropEndWhile test (items.dropWhile test)

/-- Removes the blanks at both ends of a text. -/
def strip (text : String) : String := String.ofList (dropEndsWhile isBlank text.toList)

/-- Tests whether a text holds blanks only. -/
def isBlankText (text : String) : Bool := text.toList.all isBlank

/-- Cuts a list at every element that passes a test, keeping empty pieces. -/
def cutAt {α : Type} (test : α → Bool) : List α → List (List α)
  | [] => [[]]
  | item :: rest =>
    if test item then [] :: cutAt test rest
    else match cutAt test rest with
      | [] => [[item]]
      | piece :: pieces => (item :: piece) :: pieces

/-- Cutting always leaves a piece. -/
theorem cutAt_ne_nil {α : Type} (test : α → Bool) (items : List α) : cutAt test items ≠ [] := by
  -- Each item opens a piece or extends one.
  cases items with
  | nil => simp [cutAt]
  | cons item rest =>
    simp only [cutAt]
    split
    · simp
    · split <;> simp

/-- No piece holds an element that passes the test. -/
theorem cutAt_clean {α : Type} (test : α → Bool) {items piece : List α}
    (member : piece ∈ cutAt test items) : ∀ item ∈ piece, test item = false := by
  -- An element that passes ends a piece, and any other one joins the piece after it.
  induction items generalizing piece with
  | nil =>
    rw [cutAt, List.mem_singleton] at member
    simp [member]
  | cons first rest ih =>
    by_cases passes : test first = true
    · simp only [cutAt, passes, if_true, List.mem_cons] at member
      rcases member with rfl | later
      · simp
      · exact ih later
    · cases pieces : cutAt test rest with
      | nil => exact absurd pieces (cutAt_ne_nil test rest)
      | cons next more =>
        simp only [cutAt, passes, if_false, pieces, List.mem_cons, Bool.false_eq_true] at member ih
        rcases member with rfl | later
        · intro item inside
          rcases List.mem_cons.1 inside with rfl | inside
          · simpa using passes
          · exact ih (Or.inl rfl) item inside
        · exact ih (Or.inr later)

/-- The maximal runs of characters that are not blank. -/
def wordsOf (chars : List Char) : List (List Char) :=
  (cutAt isBlank chars).filter fun piece => !piece.isEmpty

/-- The words of a text. -/
def words (text : String) : List String := (wordsOf text.toList).map String.ofList

/-- Cuts a text at every occurrence of one character, keeping empty pieces. -/
def splitAt (separator : Char) (text : String) : List String :=
  (cutAt (· == separator) text.toList).map String.ofList

/-- Tests whether a text begins with another. -/
def startsWith (text start : String) : Bool := start.toList.isPrefixOf text.toList

end Stencil
