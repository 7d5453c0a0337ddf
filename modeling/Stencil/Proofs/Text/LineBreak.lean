import Stencil.Text.LineBreak

/-! Laws of line breaks: lines hold none of them, lines that were each ended by a line feed are read
back as they were, and a line feed between two texts leaves the lines of both. -/

namespace Stencil

/-- The characters at which a text is cut into lines. -/
def lineBreaks : List Char :=
  ['\n', '\x0b', '\x0c', '\r', '\x1c', '\x1d', '\x1e', '\u0085', '\u2028', '\u2029']

/-- The test for line breaks passes these characters, and no others. -/
theorem isLineBreak_iff {c : Char} : isLineBreak c = true ↔ c ∈ lineBreaks := by
  -- Characters are told apart by their numbers.
  have numbered : c ∈ lineBreaks ↔ c.toNat ∈ lineBreaks.map Char.toNat := by
    refine ⟨List.mem_map_of_mem, fun member => ?_⟩
    obtain ⟨other, inside, same⟩ := List.mem_map.1 member
    exact Char.ext (UInt32.toNat_inj.1 same) ▸ inside
  have numbers : lineBreaks.map Char.toNat =
      [0x0A, 0x0B, 0x0C, 0x0D, 0x1C, 0x1D, 0x1E, 0x85, 0x2028, 0x2029] := by decide
  rw [numbered, numbers]
  simp only [isLineBreak, List.mem_cons, List.not_mem_nil, or_false, Bool.or_eq_true,
    Bool.and_eq_true, decide_eq_true_eq, beq_iff_eq]
  omega

/-- Tests whether a text holds no line break. -/
def isUnbroken (text : String) : Bool := text.toList.all fun c => !isLineBreak c

/-- A character that is not one break with the next one ends a line if it is a break, and otherwise
begins the first line of the others. -/
theorem linesOf_cons {c : Char} {rest : List Char}
    (single : ∀ more, c = '\r' → rest ≠ '\n' :: more) :
    linesOf (c :: rest) =
      if isLineBreak c then [] :: linesOf rest
      else match linesOf rest with
        | [] => [[c]]
        | line :: lines => (c :: line) :: lines := by
  -- Only a carriage return before a line feed is cut off together with it.
  rw [linesOf.eq_def]
  split
  · rename_i empty
    cases empty
  · rename_i same
    obtain ⟨rfl, rfl⟩ := List.cons.inj same
    exact absurd rfl (single _ rfl)
  · rename_i same
    obtain ⟨rfl, rfl⟩ := List.cons.inj same
    rfl

/-- A character that is no line break is not one break with the next one. -/
theorem single_of_plain {c : Char} (plain : isLineBreak c = false) {rest : List Char} :
    ∀ more, c = '\r' → rest ≠ '\n' :: more := by
  -- A carriage return is a line break.
  rintro more rfl
  cases plain

/-- Characters without a line break, up to a line feed, are the first line. -/
theorem linesOf_append_feed {line : List Char} (unbroken : ∀ c ∈ line, isLineBreak c = false)
    (rest : List Char) : linesOf (line ++ '\n' :: rest) = line :: linesOf rest := by
  -- No character of the line is a break, so each joins the line that the others begin.
  induction line with
  | nil => rw [List.nil_append, linesOf.eq_def]; rfl
  | cons c others ih =>
    have plain := unbroken c List.mem_cons_self
    have joined := ih fun other member => unbroken other (List.mem_cons_of_mem _ member)
    rw [List.cons_append, linesOf_cons (single_of_plain plain), joined]
    simp [plain]

/-- A line holds no line break. -/
theorem unbroken_of_mem_linesOf {text line : List Char} (member : line ∈ linesOf text) :
    ∀ c ∈ line, isLineBreak c = false := by
  -- A character joins a line only if it is no break.
  fun_induction linesOf text generalizing line with
  | case1 => cases member
  | case2 rest ih =>
    rcases List.mem_cons.1 member with rfl | later
    · simp
    · exact ih later
  | case3 c rest _ broken ih =>
    rcases List.mem_cons.1 member with rfl | later
    · simp
    · exact ih later
  | case4 c rest _ plain none ih =>
    simp only [List.mem_singleton] at member
    subst member
    simpa using plain
  | case5 c rest _ plain first others split ih =>
    -- Only the first line grows, by a character that is no break.
    rcases List.mem_cons.1 member with rfl | later
    · intro other inside
      rcases List.mem_cons.1 inside with rfl | deeper
      · simpa using plain
      · exact ih (by simp [split]) other deeper
    · exact ih (by simp [split, later])

/-- A line of a text holds no line break. -/
theorem isUnbroken_of_mem_lines {text line : String} (member : line ∈ lines text) :
    isUnbroken line = true := by
  -- Texts are split as rows of characters.
  obtain ⟨found, inside, rfl⟩ := List.mem_map.1 member
  simpa [isUnbroken] using unbroken_of_mem_linesOf inside

/-- A line of one of several texts holds no line break. -/
theorem isUnbroken_of_mem_flatMap {texts : List String} {line : String}
    (member : line ∈ texts.flatMap lines) : isUnbroken line = true := by
  obtain ⟨text, _, inside⟩ := List.mem_flatMap.1 member
  exact isUnbroken_of_mem_lines inside

/-- Lines that are each ended by a line feed are read back. -/
theorem lines_join {texts : List String} (unbroken : ∀ text ∈ texts, isUnbroken text = true) :
    lines (String.join (texts.map (· ++ "\n"))) = texts := by
  -- The first line ends at its line feed, and the others follow.
  induction texts with
  | nil => rfl
  | cons text rest ih =>
    have here : ∀ c ∈ text.toList, isLineBreak c = false := by
      simpa [isUnbroken] using unbroken text List.mem_cons_self
    have later := ih fun other member => unbroken other (List.mem_cons_of_mem _ member)
    unfold lines at later ⊢
    simp only [List.map_cons, String.join_cons, String.toList_append, List.append_assoc]
    rw [show "\n".toList = ['\n'] from rfl, List.singleton_append, linesOf_append_feed here,
      List.map_cons, later, String.ofList_toList]

/-- Only an empty text has no lines. -/
theorem linesOf_eq_nil {text : List Char} (none : linesOf text = []) : text = [] := by
  -- Whatever comes first, it is in a line or ends one.
  revert none
  fun_cases linesOf text <;> simp

/-- A line feed between two texts adds an empty line at most: none if the first text ends in a line,
or in a carriage return that the line feed joins. -/
theorem linesOf_feed_between (text other : List Char) :
    linesOf (text ++ '\n' :: other) = linesOf text ++ linesOf other ∨
      linesOf (text ++ '\n' :: other) = linesOf text ++ [] :: linesOf other := by
  -- The lines before the last one are the same on both sides, so only the end of the text counts.
  fun_induction linesOf text with
  | case1 => exact Or.inr (@linesOf_append_feed [] nofun other)
  | case2 rest ih =>
    have step : linesOf ('\r' :: '\n' :: rest ++ '\n' :: other) =
        [] :: linesOf (rest ++ '\n' :: other) := rfl
    rw [step]
    exact ih.imp (congrArg _) (congrArg _)
  | case3 c rest single broken ih =>
    by_cases joined : c = '\r' ∧ rest = []
    -- The carriage return and the line feed are one break.
    · obtain ⟨rfl, rfl⟩ := joined
      exact Or.inl rfl
    · have apart : ∀ more, c = '\r' → rest ++ '\n' :: other ≠ '\n' :: more := by
        intro more same feed
        obtain ⟨next, later, rfl⟩ := List.exists_cons_of_ne_nil fun empty => joined ⟨same, empty⟩
        exact single later same (by rw [(List.cons.inj feed).1])
      rw [List.cons_append, linesOf_cons apart, if_pos broken]
      exact ih.imp (congrArg _) (congrArg _)
  | case4 c rest single plain none ih =>
    -- The line feed ends the one line that the character makes.
    cases linesOf_eq_nil none
    exact Or.inl (@linesOf_append_feed [c] (by simpa using plain) other)
  | case5 c rest single plain first others split ih =>
    -- The character joins the first line, whatever follows the others.
    rw [split] at ih
    rw [List.cons_append, linesOf_cons (single_of_plain (by simpa using plain)), if_neg plain]
    rcases ih with tight | gap
    · exact Or.inl (by rw [tight]; rfl)
    · exact Or.inr (by rw [gap]; rfl)

/-- A carriage return takes in the line feed, and another line feed does not. -/
example : lines ("a\r" ++ "\n" ++ "b") = ["a", "b"] ∧
    lines ("a\n" ++ "\n" ++ "b") = ["a", "", "b"] := by
  decide +kernel

/-- The lines of two texts with a line feed between them are those of both, but for an empty one. -/
theorem filled_lines_feed_between (text other : String) :
    (lines (text ++ "\n" ++ other)).filter (· != "") =
      (lines text ++ lines other).filter (· != "") := by
  have chars : (text ++ "\n" ++ other).toList = text.toList ++ '\n' :: other.toList := by simp
  unfold lines
  rw [chars]
  -- The feed ends the last line of the first text, or it makes an empty line.
  rcases linesOf_feed_between text.toList other.toList with tight | gap
  · rw [tight, List.map_append]
  · simp [gap]

end Stencil
