import Mathlib.Data.List.Chain
import Stencil.Proofs.Layout.Lines

/-! The form of generated source: normalizing brings every text into it, and changes nothing about a
text exactly if the text has it already. -/

namespace Stencil

namespace Layout

/-- The form of a source text that is not empty. -/
structure LaidOut (chars : List Char) : Prop where
  unreturned : '\r' ∉ chars
  stripped : ∀ c, isBlank c = true → c ≠ '\n' → ¬ [c, '\n'] <:+: chars
  spaced : ¬ ['\n', '\n', '\n', '\n'] <:+: chars
  opened : chars.head? ≠ some '\n'
  closed : ∃ front last, chars = front ++ [last, '\n'] ∧ last ≠ '\n'

/-! ### Runs of line feeds -/

/-- A row of items in which one does not occur is part of what comes before it or behind it. -/
theorem infix_append_cons {α : Type} {part front back : List α} {item : α} (apart : item ∉ part)
    (inside : part <:+: front ++ item :: back) : part <:+: front ∨ part <:+: back := by
  -- What begins at the item is empty, as it would hold the item otherwise.
  have starts : ∀ {rest : List α}, rest <:+: part → rest <+: item :: back → rest = [] := by
    intro rest within ahead
    rcases List.prefix_cons_iff.1 ahead with rfl | ⟨more, rfl, _⟩
    · rfl
    · exact absurd (within.mem List.mem_cons_self) apart
  -- The part lies before the item, behind it, or across the seam.
  rcases List.infix_append_iff.1 inside with before | behind | ⟨head, tail, rfl, ending, ahead⟩
  · exact Or.inl before
  · rcases List.infix_cons_iff.1 behind with ahead | behind
    · rw [starts List.infix_rfl ahead]
      exact Or.inl List.nil_infix
    · exact Or.inr behind
  · rw [starts List.infix_append_right ahead, List.append_nil]
    exact Or.inl ending.isInfix

/-- A line feed behind a run of line feeds belongs to the run. -/
theorem run_append_feed (count : Nat) (rest : List Char) :
    List.replicate count '\n' ++ '\n' :: rest = List.replicate (count + 1) '\n' ++ rest := by
  rw [List.replicate_succ', List.append_assoc, List.singleton_append]

/-- Capping leaves no longer run of line feeds than may be. -/
theorem capBreaks_spaced {passed : Nat} (within : passed ≤ maxBreaks) (chars : List Char) :
    ¬ List.replicate (maxBreaks + 1) '\n' <:+:
      List.replicate passed '\n' ++ capBreaks passed chars := by
  -- The line feeds just passed stand before what is left to be capped.
  induction chars generalizing passed with
  | nil =>
    intro inside
    have short := inside.length_le
    simp only [capBreaks, List.append_nil, List.length_replicate] at short
    omega
  | cons c rest ih =>
    by_cases feed : c = '\n'
    · subst feed
      rw [capBreaks, if_pos (beq_self_eq_true _)]
      split
      · rename_i room
        rw [run_append_feed]
        exact ih (Nat.succ_le_of_lt room)
      · exact ih within
    -- A run ends before this character or begins behind it.
    · have plain : (c == '\n') = false := by simpa using feed
      rw [capBreaks, plain, if_neg Bool.false_ne_true]
      intro inside
      have apart : c ∉ List.replicate (maxBreaks + 1) '\n' := fun member =>
        feed (List.eq_of_mem_replicate member)
      rcases infix_append_cons apart inside with before | behind
      · have short := before.length_le
        simp only [List.length_replicate] at short
        omega
      · exact ih (Nat.zero_le _) (by simpa using behind)

/-- A text without longer runs of line feeds than may be is not changed by capping. -/
theorem capBreaks_eq_self {passed : Nat} (within : passed ≤ maxBreaks) {chars : List Char}
    (spaced : ¬ List.replicate (maxBreaks + 1) '\n' <:+: List.replicate passed '\n' ++ chars) :
    capBreaks passed chars = chars := by
  induction chars generalizing passed with
  | nil => rfl
  | cons c rest ih =>
    by_cases feed : c = '\n'
    · subst feed
      rw [run_append_feed] at spaced
      -- With the greatest number of line feeds passed, one more would be too many.
      have room : passed < maxBreaks := by
        refine Nat.lt_of_le_of_ne within ?_
        rintro rfl
        exact spaced List.infix_append_left
      rw [capBreaks, if_pos (beq_self_eq_true _), if_pos room, ih (Nat.succ_le_of_lt room) spaced]
    -- A character that is no feed starts the count again.
    · have plain : (c == '\n') = false := by simpa using feed
      have behind : ¬ List.replicate (maxBreaks + 1) '\n' <:+: rest := fun inside =>
        spaced (List.infix_append_of_infix_right (List.infix_cons inside))
      rw [capBreaks, plain, if_neg Bool.false_ne_true, ih (Nat.zero_le _) (by simpa using behind)]

/-! ### Line ends -/

/-- An ended line is part of what all ended lines make up. -/
theorem infix_endLines {line : List Char} {lines : List (List Char)} (member : line ∈ lines) :
    line ++ ['\n'] <:+: endLines lines :=
  List.infix_of_mem_flatten (List.mem_map_of_mem member)

/-- Lines that end in no blank leave, when they are ended, no other blank before a line feed. -/
theorem endLines_stripped {lines : List (List Char)} (unbroken : ∀ line ∈ lines, '\n' ∉ line)
    (stripped : ∀ line ∈ lines, dropEndWhile isBlank line = line) {c : Char}
    (blank : isBlank c = true) (other : c ≠ '\n') : ¬ [c, '\n'] <:+: endLines lines := by
  intro inside
  induction lines with
  | nil => simp [endLines] at inside
  | cons line rest ih =>
    have feedless := unbroken line List.mem_cons_self
    rw [endLines_cons] at inside
    -- The pair stands in the line, behind it, or across its end.
    rcases List.infix_append_iff.1 inside with before | behind | ⟨head, tail, pair, ending, ahead⟩
    · exact feedless (before.mem (by simp))
    · rcases List.infix_cons_iff.1 behind with ahead | behind
      · exact other (List.cons_prefix_cons.1 ahead).1
      · exact ih (fun line member => unbroken line (List.mem_cons_of_mem _ member))
          (fun line member => stripped line (List.mem_cons_of_mem _ member)) behind
    · rcases List.append_eq_cons_iff.1 pair.symm with ⟨rfl, rfl⟩ | ⟨more, rfl, others⟩
      · exact other (List.cons_prefix_cons.1 ahead).1
      · rcases List.append_eq_cons_iff.1 others.symm with ⟨rfl, rfl⟩ | ⟨_, rfl, _⟩
        -- The line would end in a blank.
        · obtain ⟨front, rfl⟩ := ending
          have last := List.rdropWhile_eq_self_iff.1 (stripped _ List.mem_cons_self) (by simp)
          simp [blank] at last
        · exact feedless (ending.mem (by simp))

/-- The text of lines cut at line feeds is the text with a line feed behind it. -/
theorem endLines_cutAt (chars : List Char) :
    endLines (cutAt (· == '\n') chars) = chars ++ ['\n'] := by
  -- Cutting at each feed and ending each line with one replaces it by itself.
  have marked := replace_separators '\n' '\n' chars
  have same : ∀ c ∈ chars, (if c == '\n' then '\n' else c) = id c := by
    intro c _
    split
    · rename_i feed
      exact (beq_iff_eq.1 feed).symm
    · rfl
  rw [List.map_congr_left same, List.map_id] at marked
  exact marked.symm

/-- Ended lines of which the first is not empty begin with no line feed. -/
theorem head_endLines {line : List Char} (full : line ≠ []) (unbroken : '\n' ∉ line)
    (rest : List (List Char)) : ∃ c others, endLines (line :: rest) = c :: others ∧ c ≠ '\n' := by
  -- The first character is the one of the first line.
  obtain ⟨c, others, rfl⟩ := List.exists_cons_of_ne_nil full
  refine ⟨c, others ++ '\n' :: endLines rest, endLines_cons _ rest, ?_⟩
  rintro rfl
  exact unbroken List.mem_cons_self

/-- Ended lines of which the last is not empty end in one line feed. -/
theorem endLines_ending {line : List Char} (full : line ≠ []) (unbroken : '\n' ∉ line)
    (before : List (List Char)) :
    ∃ front c, endLines (before ++ [line]) = front ++ [c, '\n'] ∧ c ≠ '\n' := by
  -- The last character before the feed is the one of the last line.
  obtain ⟨front, c, rfl⟩ := (List.eq_nil_or_concat' line).resolve_left full
  refine ⟨endLines before ++ front, c, by simp [endLines], ?_⟩
  rintro rfl
  simp at unbroken

/-- If ended lines begin with no line feed and end in one, neither the first line nor the last is
empty. -/
theorem dropEndsWhile_of_endLines {lines : List (List Char)} {front : List Char} {last : Char}
    (opened : (endLines lines).head? ≠ some '\n') (closed : endLines lines = front ++ [last, '\n'])
    (plain : last ≠ '\n') : dropEndsWhile List.isEmpty lines = lines := by
  refine dropEndsWhile_eq_self (fun line head => ?_) (fun line final => ?_)
  · obtain ⟨rest, parts⟩ := List.head?_eq_some_iff.1 head
    cases line with
    | cons c others => rfl
    | nil =>
      -- A line feed would come first.
      rw [parts, endLines_cons] at opened
      simp at opened
  · obtain ⟨before, parts⟩ := List.getLast?_eq_some_iff.1 final
    cases line with
    | cons c others => rfl
    | nil =>
      -- A line feed would come before the last one.
      have shorter : endLines before = front ++ [last] := by
        rw [parts, endLines_append, List.append_cons] at closed
        exact List.append_cancel_right closed
      have some : before ≠ [] := by
        rintro rfl
        simp [endLines] at shorter
      rw [← joinLines_feed some] at shorter
      exact absurd (List.append_inj' shorter rfl).2 (by simpa using Ne.symm plain)

/-! ### The form as what normalizing leaves -/

/-- Normalizing a text leaves nothing, or a text in the form of generated source. -/
theorem laidOut_normalizeOf (chars : List Char) :
    normalizeOf chars = [] ∨ LaidOut (normalizeOf chars) := by
  have unbroken : ∀ line ∈ strippedLines chars, '\n' ∉ line ∧ '\r' ∉ line :=
    fun line member => unbroken_of_mem_strippedLines member
  have ending := dropEndWhile_ending List.isEmpty ((strippedLines chars).dropWhile List.isEmpty)
  rw [← dropEndsWhile] at ending
  rcases ending with nothing | ⟨before, last, parts, full⟩
  · left
    rw [normalizeOf_eq_capBreaks, nothing]
    rfl
  · right
    have kept : ∀ line ∈ dropEndsWhile List.isEmpty (strippedLines chars), '\n' ∉ line :=
      fun line member => (unbroken line ((infix_dropEndsWhile _ _).mem member)).1
    refine ⟨?_, fun c blank other => ?_, ?_, ?_, ?_⟩
    -- Every character stands in a laid-out line or ends one.
    · rw [normalizeOf_eq_endLines]
      intro back
      obtain ⟨line, member, inside⟩ := List.mem_flatMap.1 back
      exact (unbroken line (mem_strippedLines_of_laid member)).2 (by simpa using inside)
    · rw [normalizeOf_eq_endLines]
      refine endLines_stripped (fun line member => ?_) (fun line member => ?_) blank other
      · exact (unbroken line (mem_strippedLines_of_laid member)).1
      · exact stripped_of_mem_strippedLines (mem_strippedLines_of_laid member)
    · rw [normalizeOf_eq_capBreaks]
      exact capBreaks_spaced (Nat.zero_le _) _
    -- Capping keeps a first character that is no line feed.
    · rw [normalizeOf_eq_capBreaks]
      cases opening : dropEndsWhile List.isEmpty (strippedLines chars) with
      | nil => simp [endLines, capBreaks]
      | cons line rest =>
        have some : line ≠ [] := by simpa using head_dropEndsWhile opening
        obtain ⟨c, others, text, plain⟩ := head_endLines some (kept line (by simp [opening])) rest
        simp [text, capBreaks, plain]
    -- Capping keeps a last line feed that stands alone.
    · rw [normalizeOf_eq_capBreaks, parts]
      obtain ⟨front, c, text, plain⟩ :=
        endLines_ending (by simpa using full) (kept last (by simp [parts])) before
      rw [text, capBreaks_append_cons 0 _ plain]
      exact ⟨_, c, rfl, plain⟩

/-- A text in the form of generated source is made up of ended lines without breaks and without blanks
at their ends, the first and the last of which are not empty. -/
theorem LaidOut.exists_lines {chars : List Char} (laid : LaidOut chars) :
    ∃ lines, endLines lines = chars ∧ (∀ line ∈ lines, '\n' ∉ line ∧ '\r' ∉ line) ∧
      (∀ line ∈ lines, dropEndWhile isBlank line = line) ∧
      dropEndsWhile List.isEmpty lines = lines := by
  obtain ⟨unreturned, stripped, _, opened, front, last, whole, plain⟩ := laid
  -- The lines are cut before the last line feed, which ends the last one of them.
  let lines := cutAt (· == '\n') (front ++ [last])
  have ended : endLines lines = chars := by
    rw [endLines_cutAt, whole]
    simp
  have clean : ∀ line ∈ lines, '\n' ∉ line := by
    intro line member feed
    simpa using cutAt_clean _ member _ feed
  refine ⟨lines, ended, fun line member => ⟨clean line member, fun back => unreturned ?_⟩,
    fun line member => ?_, ?_⟩
  -- A carriage return in a line would stand in the text.
  · rw [← ended]
    exact (infix_endLines member).mem (by simp [back])
  -- A blank at the end of a line would stand before a feed.
  · refine List.rdropWhile_eq_self_iff.2 fun some blank => ?_
    have inside := infix_endLines member
    rw [ended] at inside
    have pair : [line.getLast some, '\n'] <:+: line ++ ['\n'] := by
      refine List.IsSuffix.isInfix ⟨line.dropLast, ?_⟩
      rw [← List.singleton_append, ← List.append_assoc, List.dropLast_append_getLast]
    exact stripped _ blank (fun feed => clean line member (feed ▸ List.getLast_mem some))
      (pair.trans inside)
  · exact dropEndsWhile_of_endLines (by rwa [ended]) (ended.trans whole) plain

/-- A text in the form of generated source is its own normalized text. -/
theorem normalizeOf_eq_self {chars : List Char} (laid : LaidOut chars) :
    normalizeOf chars = chars := by
  obtain ⟨lines, rfl, unbroken, bare, trimmed⟩ := laid.exists_lines
  -- What follows the last line feed is one more line, which is empty and dropped.
  rw [normalizeOf_eq_capBreaks, strippedLines_endLines unbroken bare, dropEndsWhile_concat lines rfl,
    trimmed]
  exact capBreaks_eq_self (Nat.zero_le _) laid.spaced

/-- Normalizing changes nothing about a text exactly if the text is empty or in the form of generated
source, which it gives to every text; so normalizing twice is normalizing once. -/
theorem normalize_fixed_iff (text : String) :
    (normalize text = text ↔ text = "" ∨ LaidOut text.toList) ∧
      (normalize text = "" ∨ LaidOut (normalize text).toList) ∧
      normalize (normalize text) = normalize text := by
  have shaped : ∀ text : String, normalize text = "" ∨ LaidOut (normalize text).toList := by
    intro text
    rw [normalize, String.toList_ofList]
    refine (laidOut_normalizeOf text.toList).imp_left fun nothing => ?_
    rw [nothing]
  -- What has the form already is left as it is.
  have fixed : ∀ text : String, text = "" ∨ LaidOut text.toList → normalize text = text := by
    rintro text (rfl | laid)
    · rfl
    · rw [normalize, normalizeOf_eq_self laid, String.ofList_toList]
  refine ⟨⟨fun same => ?_, fixed text⟩, shaped text, fixed _ (shaped text)⟩
  rw [← same]
  exact shaped text

end Layout

end Stencil
