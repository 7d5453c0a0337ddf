import Mathlib.Data.List.SplitBy
import Stencil.Layout
import Stencil.Proofs.Text.Blank
import Stencil.Proofs.Text.LineBreak

/-! Laying out a source text, line by line: what comes out are the lines of the text without the
blanks at their ends, without the empty lines at both ends of the text, with at most two empty lines
in a row, and with a line feed behind each of them. -/

namespace Stencil

namespace Layout

/-- The lines of a text: a line feed or a carriage return ends a line, and the two of them in a row
are one end. What follows the last end is a line too. -/
def sourceLines : List Char → List (List Char)
  | [] => [[]]
  | '\r' :: '\n' :: rest => [] :: sourceLines rest
  | c :: rest =>
    if c = '\n' ∨ c = '\r' then [] :: sourceLines rest
    else (sourceLines rest).modifyHead (List.cons c)

/-- The lines of a text without the blanks at their ends. -/
def strippedLines (chars : List Char) : List (List Char) :=
  (sourceLines chars).map (dropEndWhile isBlank)

/-- The number of empty lines that may follow one another. -/
def maxEmptyLines : Nat := 2

/-- Shortens every longest run of empty lines. -/
def shortenRuns (lines : List (List Char)) : List (List Char) :=
  (lines.splitBy fun line next => line.isEmpty && next.isEmpty).flatMap (List.take maxEmptyLines)

/-- The lines of a source text once it is laid out. -/
def laidLines (chars : List Char) : List (List Char) :=
  shortenRuns (dropEndsWhile List.isEmpty (strippedLines chars))

/-- Ends every line with a line feed. -/
def endLines (lines : List (List Char)) : List Char := lines.flatMap (· ++ ['\n'])

/-- The lines of a text that hold more than blanks, without the blanks at their ends. -/
def solidLines (chars : List Char) : List (List Char) :=
  (strippedLines chars).filter fun line => !line.isEmpty

/-- Cutting at line feeds once all breaks are line feeds leaves the lines of the text. -/
theorem cutAt_unifyBreaksOf (chars : List Char) :
    cutAt (· == '\n') (unifyBreaksOf chars) = sourceLines chars := by
  -- A pair of breaks is one on both sides, and any other character is looked at on its own.
  fun_induction sourceLines chars with
  | case1 => rfl
  | case2 rest ih => simp [unifyBreaksOf, cutAt, ih]
  | case3 c rest single ends ih =>
    have step : unifyBreaksOf (c :: rest) = '\n' :: unifyBreaksOf rest := by
      -- A carriage return that ends a line alone is made a line feed.
      rcases ends with rfl | rfl <;> simp [unifyBreaksOf]
    simp [step, cutAt, ih]
  | case4 c rest single plain ih =>
    simp only [not_or] at plain
    have step : unifyBreaksOf (c :: rest) = c :: unifyBreaksOf rest := by
      simp [unifyBreaksOf, plain]
    simp only [step, cutAt_eq_splitOnP] at ih ⊢
    simp [List.splitOnP_cons_eq_if_modifyHead, plain, ih]

/-- The line that ends before a break holds no break, and neither do the others. -/
theorem unbroken_of_mem_sourceLines {chars line : List Char} (member : line ∈ sourceLines chars) :
    '\n' ∉ line ∧ '\r' ∉ line := by
  -- A character joins a line only if it is neither of the two.
  fun_induction sourceLines chars generalizing line with
  | case1 => simp_all
  | case2 rest ih | case3 c rest single ends ih =>
    rcases List.mem_cons.1 member with rfl | later
    · simp
    · exact ih later
  | case4 c rest single plain ih =>
    simp only [not_or] at plain
    obtain ⟨first, others, split⟩ : ∃ first others, sourceLines rest = first :: others := by
      rw [← cutAt_unifyBreaksOf]
      exact List.exists_cons_of_ne_nil (cutAt_ne_nil _ _)
    rw [split, List.modifyHead_cons] at member
    rcases List.mem_cons.1 member with rfl | later
    · have inside := @ih first (by simp [split])
      simp [inside, Ne.symm plain.1, Ne.symm plain.2]
    · exact ih (by simp [split, later])

/-- A line without the blanks at its end holds no break. -/
theorem unbroken_of_mem_strippedLines {chars line : List Char}
    (member : line ∈ strippedLines chars) : '\n' ∉ line ∧ '\r' ∉ line := by
  obtain ⟨whole, inside, rfl⟩ := List.mem_map.1 member
  -- What is left of a line is its beginning.
  have start : dropEndWhile isBlank whole <+: whole := List.rdropWhile_prefix isBlank whole
  have unbroken := unbroken_of_mem_sourceLines inside
  exact ⟨fun feed => unbroken.1 (start.mem feed), fun back => unbroken.2 (start.mem back)⟩

/-- A line without the blanks at its end has no more blanks there. -/
theorem stripped_of_mem_strippedLines {chars line : List Char}
    (member : line ∈ strippedLines chars) : dropEndWhile isBlank line = line := by
  obtain ⟨whole, _, rfl⟩ := List.mem_map.1 member
  exact List.rdropWhile_idempotent isBlank whole

/-- Stripping line ends leaves the stripped lines with line feeds between them. -/
theorem stripLineEnds_unifyBreaksOf (chars : List Char) :
    stripLineEnds (unifyBreaksOf chars) = joinLines (strippedLines chars) := by
  rw [stripLineEnds, cutAt_unifyBreaksOf, strippedLines]

/-! ### Dropping line feeds and dropping empty lines -/

/-- The line feeds before joined lines are the empty lines at their start. -/
theorem dropWhile_joinLines {lines : List (List Char)} (unbroken : ∀ line ∈ lines, '\n' ∉ line) :
    (joinLines lines).dropWhile (· == '\n') = joinLines (lines.dropWhile List.isEmpty) := by
  -- The walk stops at the first character of the first line that is not empty.
  fun_induction joinLines lines with
  | case1 => rfl
  | case2 line =>
    cases line with
    | nil => rfl
    | cons c rest =>
      have plain : c ≠ '\n' := by
        rintro rfl
        simp at unbroken
      simp [joinLines, plain]
  -- An empty first line leaves the walk to the others.
  | case3 line rest some ih =>
    cases line with
    | nil => simpa using ih fun other member => unbroken other (List.mem_cons_of_mem _ member)
    | cons c others =>
      have plain : c ≠ '\n' := by
        rintro rfl
        simp at unbroken
      simp [joinLines, plain]

/-- Joining puts a line feed behind a line that others follow. -/
theorem joinLines_cons (line : List Char) {rest : List (List Char)} (some : rest ≠ []) :
    joinLines (line :: rest) = line ++ '\n' :: joinLines rest := by
  cases rest with
  | nil => exact absurd rfl some
  | cons next more => rfl

/-- Lines of which the last one is not empty make up a text that is not empty. -/
theorem joinLines_ne_nil {front : List (List Char)} {last : List Char} (full : last ≠ []) :
    joinLines (front ++ [last]) ≠ [] := by
  cases front with
  | nil => simpa [joinLines] using full
  | cons line more => simp [joinLines_cons]

/-- The line feeds behind joined lines are the empty lines at their end. -/
theorem dropEndWhile_joinLines {lines : List (List Char)}
    (unbroken : ∀ line ∈ lines, '\n' ∉ line) :
    dropEndWhile (· == '\n') (joinLines lines) = joinLines (dropEndWhile List.isEmpty lines) := by
  have whole : ∀ line ∈ lines, dropEndWhile (· == '\n') line = line := by
    intro line member
    refine List.rdropWhile_eq_self_iff.2 fun some feed => unbroken line member ?_
    have last := List.getLast_mem some
    rwa [beq_iff_eq.1 feed] at last
  -- What the end of the other lines leaves decides whether the line feed before them stays.
  fun_induction joinLines lines with
  | case1 => rfl
  | case2 line =>
    rw [whole line List.mem_cons_self, dropEndWhile_cons]
    cases line <;> simp [joinLines, dropEndWhile]
  | case3 line rest some ih =>
    have onward := ih (fun other member => unbroken other (List.mem_cons_of_mem _ member))
      fun other member => whole other (List.mem_cons_of_mem _ member)
    rw [dropEndWhile_append, dropEndWhile_cons, dropEndWhile_cons, onward]
    rcases dropEndWhile_ending List.isEmpty rest with nothing | ⟨front, last, ending, full⟩
    · rw [nothing, whole line List.mem_cons_self]
      cases line <;> simp [joinLines]
    -- A line is left behind the first one, so the feed between them stays.
    · have left : joinLines (front ++ [last]) ≠ [] := joinLines_ne_nil (by simpa using full)
      simp [ending, left, joinLines_cons]

/-! ### Capping runs of line feeds -/

/-- Any other character ends the run of line feeds before it. -/
theorem capBreaks_append_cons (passed : Nat) (front : List Char) {c : Char} (plain : c ≠ '\n')
    (back : List Char) :
    capBreaks passed (front ++ c :: back) = capBreaks passed front ++ c :: capBreaks 0 back := by
  -- The induction carries the number of feeds that were passed.
  induction front generalizing passed with
  | nil => simp [capBreaks, plain]
  | cons first rest ih =>
    rw [List.cons_append, capBreaks, capBreaks]
    split
    · split
      · rw [ih, List.cons_append]
      · exact ih passed
    · rw [ih, List.cons_append]

/-- Line feeds at the start are dropped whether or not their run is capped first. -/
theorem dropWhile_capBreaks (passed : Nat) (chars : List Char) :
    (capBreaks passed chars).dropWhile (· == '\n') =
      capBreaks 0 (chars.dropWhile (· == '\n')) := by
  -- A feed is dropped in the end, whether it was kept or not.
  induction chars generalizing passed with
  | nil => rfl
  | cons c rest ih =>
    by_cases feed : c = '\n'
    · by_cases room : passed < maxBreaks
      · simpa [capBreaks, feed, room] using ih (passed + 1)
      · simpa [capBreaks, feed, room] using ih passed
    · simp [capBreaks, feed]

/-- Line feeds at the end are dropped whether or not their run is capped first. -/
theorem dropEndWhile_capBreaks (passed : Nat) (chars : List Char) :
    dropEndWhile (· == '\n') (capBreaks passed chars) =
      capBreaks passed (dropEndWhile (· == '\n') chars) := by
  induction chars generalizing passed with
  | nil => rfl
  | cons c rest ih =>
    -- Capping never empties what is left of the others, as it ends in another character.
    have stays : ∀ passed, capBreaks passed (dropEndWhile (· == '\n') rest) = [] ↔
        dropEndWhile (· == '\n') rest = [] := by
      intro passed
      rcases dropEndWhile_ending (· == '\n') rest with nothing | ⟨front, last, ending, plain⟩
      · simp [nothing, capBreaks]
      · simp [ending, capBreaks_append_cons passed front (by simpa using plain)]
    rw [dropEndWhile_cons (· == '\n') c rest]
    -- A feed goes if all behind it goes, or if there is no room for it.
    by_cases feed : c = '\n'
    · by_cases room : passed < maxBreaks
      · simp only [capBreaks, feed, room, beq_self_eq_true, if_true, dropEndWhile_cons, ih, stays]
        split <;> simp [capBreaks, room]
      · simp only [capBreaks, feed, room, beq_self_eq_true, if_true, if_false, ih]
        split
        · simp_all [capBreaks]
        · simp [capBreaks, room]
    · have plain : (c == '\n') = false := by simpa using feed
      simp only [capBreaks, plain, Bool.false_eq_true, if_false, dropEndWhile_cons, ih, stays]
      split <;> simp_all [capBreaks]

/-- A run of line feeds is cut to what is left of the greatest number. -/
theorem capBreaks_run {passed : Nat} (within : passed ≤ maxBreaks) (count : Nat) (rest : List Char)
    (ends : rest.head? ≠ some '\n') :
    capBreaks passed (List.replicate count '\n' ++ rest) =
      List.replicate (min count (maxBreaks - passed)) '\n' ++ capBreaks 0 rest := by
  induction count generalizing passed with
  | zero =>
    -- Behind the run, the number of line feeds passed plays no role.
    cases rest with
    | nil => simp [capBreaks]
    | cons c more =>
      have plain : c ≠ '\n' := by simpa using ends
      simp [capBreaks, plain]
  | succ count ih =>
    rw [List.replicate_succ, List.cons_append, capBreaks, if_pos (beq_self_eq_true _)]
    by_cases room : passed < maxBreaks
    · have more : min (count + 1) (maxBreaks - passed) =
          min count (maxBreaks - (passed + 1)) + 1 := by omega
      rw [if_pos room, ih room, more, List.replicate_succ, List.cons_append]
    -- Without room, the feed is left out and the others as well.
    · have none : maxBreaks - passed = 0 := by omega
      rw [if_neg room, ih within, none, Nat.min_zero, Nat.min_zero]

/-- A line that is not empty is kept with its line feed, which is the first of the next run. -/
theorem capBreaks_line {line : List Char} (full : line ≠ []) (unbroken : '\n' ∉ line)
    (passed : Nat) (rest : List Char) :
    capBreaks passed (line ++ '\n' :: rest) = line ++ '\n' :: capBreaks 1 rest := by
  induction line generalizing passed with
  | nil => exact absurd rfl full
  | cons c others ih =>
    simp only [List.mem_cons, not_or] at unbroken
    have plain : (c == '\n') = false := by simpa using Ne.symm unbroken.1
    rw [List.cons_append, capBreaks, plain, if_neg Bool.false_ne_true]
    -- The feed behind the last character is the first one of its run.
    by_cases last : others = []
    · simp [last, capBreaks, maxBreaks]
    · rw [ih last unbroken.2, List.cons_append]

/-! ### Shortening runs of empty lines -/

/-- Induction over the lines that are not empty, each with the run of empty lines before it. -/
@[elab_as_elim]
theorem runs_induction {motive : List (List Char) → Prop}
    (empty : ∀ count, motive (List.replicate count []))
    (solid : ∀ count line rest, line ≠ [] → motive rest →
      motive (List.replicate count [] ++ line :: rest))
    (lines : List (List Char)) : motive lines := by
  -- The run that has been passed is carried along.
  have general : ∀ count, motive (List.replicate count [] ++ lines) := by
    induction lines with
    | nil =>
      intro count
      simpa using empty count
    | cons line rest ih =>
      intro count
      cases line with
      | nil =>
        have longer := ih (count + 1)
        rwa [List.replicate_succ', List.append_assoc] at longer
      | cons c others => exact solid count _ rest (by simp) (by simpa using ih 0)
  simpa using general 0

/-- A line that is not empty is kept, and the lines behind it are shortened on their own. -/
theorem shortenRuns_cons {line : List Char} (solid : line ≠ []) (rest : List (List Char)) :
    shortenRuns (line :: rest) = line :: shortenRuns rest := by
  -- A line that is not empty shares no run with its neighbour.
  have apart : (line :: rest).splitBy (fun line next => line.isEmpty && next.isEmpty) =
      [line] :: rest.splitBy fun line next => line.isEmpty && next.isEmpty :=
    List.splitBy_append (l := [line]) (by simp [solid])
  simp [shortenRuns, apart, maxEmptyLines]

/-- A run of empty lines is cut to the greatest number. -/
theorem shortenRuns_run (count : Nat) (rest : List (List Char)) (ends : rest.head? ≠ some []) :
    shortenRuns (List.replicate count [] ++ rest) =
      List.replicate (min count maxEmptyLines) [] ++ shortenRuns rest := by
  cases count with
  | zero => simp
  | succ count =>
    -- The empty lines are one run, and the line behind them is not part of it.
    have run : (List.replicate (count + 1) ([] : List Char)).splitBy
        (fun line next => line.isEmpty && next.isEmpty) = [List.replicate (count + 1) []] :=
      List.splitBy_of_isChain (by simp) (List.isChain_replicate_of_rel _ (by simp))
    have apart : (List.replicate (count + 1) [] ++ rest).splitBy
        (fun line next => line.isEmpty && next.isEmpty) =
        List.replicate (count + 1) [] ::
          rest.splitBy fun line next => line.isEmpty && next.isEmpty := by
      rw [List.splitBy_append, run, List.singleton_append]
      intro last _ next head
      cases next with
      | nil => exact absurd head ends
      | cons c others => simp
    simp [shortenRuns, apart, Nat.min_comm]

/-- A run of empty lines that nothing follows is cut to the greatest number. -/
theorem shortenRuns_replicate (count : Nat) :
    shortenRuns (List.replicate count []) = List.replicate (min count maxEmptyLines) [] := by
  simpa [shortenRuns] using shortenRuns_run count [] (by simp)

/-- The lines that are left were there before. -/
theorem shortenRuns_subset (lines : List (List Char)) : shortenRuns lines ⊆ lines := by
  -- A line that is left belongs to a run, and all runs together are the lines.
  intro line member
  obtain ⟨run, among, inside⟩ := List.mem_flatMap.1 member
  rw [← List.flatten_splitBy (fun line next => line.isEmpty && next.isEmpty) lines]
  exact List.mem_flatten.2 ⟨run, among, List.mem_of_mem_take inside⟩

/-- Of lines that are not empty, shortening runs of empty lines drops none. -/
theorem filter_shortenRuns (lines : List (List Char)) :
    (shortenRuns lines).filter (fun line => !line.isEmpty) =
      lines.filter fun line => !line.isEmpty := by
  -- A run of empty lines adds nothing on either side.
  induction lines using runs_induction with
  | empty count => rw [shortenRuns_replicate]; simp
  | solid count line rest full ih =>
    rw [shortenRuns_run count _ (by simpa using full), shortenRuns_cons full]
    simp [full, ih]

/-! ### Ending lines -/

/-- A line is ended before the others are. -/
theorem endLines_cons (line : List Char) (rest : List (List Char)) :
    endLines (line :: rest) = line ++ '\n' :: endLines rest := by
  simp [endLines]

/-- The lines of both parts are ended. -/
theorem endLines_append (front back : List (List Char)) :
    endLines (front ++ back) = endLines front ++ endLines back :=
  List.flatMap_append

/-- Ended empty lines are line feeds. -/
theorem endLines_replicate (count : Nat) :
    endLines (List.replicate count []) = List.replicate count '\n' := by
  simp [endLines, List.flatMap_replicate]

/-- A line feed behind joined lines ends the last one, as all the others are. -/
theorem joinLines_feed {lines : List (List Char)} (some : lines ≠ []) :
    joinLines lines ++ ['\n'] = endLines lines := by
  -- The feed goes with the last line, which the recursion reaches last.
  fun_induction joinLines lines with
  | case1 => exact absurd rfl some
  | case2 line => simp [endLines]
  | case3 line rest more ih =>
    rw [List.append_assoc, List.cons_append, ih more, endLines_cons]

/-- Behind the end of a line, capping line feeds is shortening runs of empty lines. -/
theorem capBreaks_endLines {lines : List (List Char)} (unbroken : ∀ line ∈ lines, '\n' ∉ line) :
    capBreaks 1 (endLines lines) = endLines (shortenRuns lines) := by
  have within : 1 ≤ maxBreaks := by decide
  -- One line feed has ended a line, so as many line feeds may follow as empty lines may.
  have same : maxBreaks - 1 = maxEmptyLines := rfl
  induction lines using runs_induction with
  | empty count =>
    have kept := capBreaks_run within count [] (by simp)
    rw [List.append_nil, capBreaks, List.append_nil, same] at kept
    rw [endLines_replicate, kept, shortenRuns_replicate, endLines_replicate]
  -- The run is cut, the line behind it is kept, and its feed begins the next run.
  | solid count line rest full ih =>
    have later := ih fun other member => unbroken other (by simp [member])
    have here := unbroken line (by simp)
    obtain ⟨c, others, rfl⟩ := List.exists_cons_of_ne_nil full
    have plain : c ≠ '\n' := by
      rintro rfl
      exact here List.mem_cons_self
    rw [endLines_append, endLines_replicate, endLines_cons,
      capBreaks_run within count _ (by simpa using plain), same, capBreaks_line full here, later,
      shortenRuns_run count _ (by simp), shortenRuns_cons full, endLines_append, endLines_replicate,
      endLines_cons]

/-! ### Laid-out lines -/

/-- A laid-out line is a stripped line of the text. -/
theorem mem_strippedLines_of_laid {chars line : List Char} (member : line ∈ laidLines chars) :
    line ∈ strippedLines chars :=
  (infix_dropEndsWhile _ _).mem (shortenRuns_subset _ member)

/-- A text without carriage returns has the breaks of generated source. -/
theorem unifyBreaksOf_eq_self {chars : List Char} (unreturned : '\r' ∉ chars) :
    unifyBreaksOf chars = chars := by
  -- The second case begins with a carriage return, and every other character stays.
  fun_induction unifyBreaksOf chars with
  | case1 => rfl
  | case2 rest ih => simp at unreturned
  | case3 c rest single ih =>
    simp only [List.mem_cons, not_or] at unreturned
    simp [Ne.symm unreturned.1, ih unreturned.2]

/-- Ended lines that hold no break are the lines of what they make up, before an empty last one. -/
theorem sourceLines_endLines {lines : List (List Char)}
    (unbroken : ∀ line ∈ lines, '\n' ∉ line ∧ '\r' ∉ line) :
    sourceLines (endLines lines) = lines ++ [[]] := by
  -- No line brings a carriage return, and ending the lines adds none.
  have unreturned : '\r' ∉ endLines lines := by
    intro back
    obtain ⟨line, member, inside⟩ := List.mem_flatMap.1 back
    exact (unbroken line member).2 (by simpa using inside)
  rw [← cutAt_unifyBreaksOf, unifyBreaksOf_eq_self unreturned]
  clear unreturned
  induction lines with
  | nil => rfl
  | cons line rest ih =>
    -- The first line feed is the one behind the first line.
    have clean : ∀ c ∈ line, (c == '\n') = false := by
      intro c inside
      have plain : c ≠ '\n' := fun feed => (unbroken line List.mem_cons_self).1 (feed ▸ inside)
      simpa using plain
    rw [endLines_cons, cutAt_append_separator (· == '\n') _ _ (beq_self_eq_true _),
      cutAt_eq_singleton clean, ih fun other member => unbroken other (List.mem_cons_of_mem _ member)]
    rfl

/-- Ended lines without breaks and without blanks at their ends are the stripped lines of what they
make up, before an empty last one. -/
theorem strippedLines_endLines {lines : List (List Char)}
    (unbroken : ∀ line ∈ lines, '\n' ∉ line ∧ '\r' ∉ line)
    (bare : ∀ line ∈ lines, dropEndWhile isBlank line = line) :
    strippedLines (endLines lines) = lines ++ [[]] := by
  -- Stripping changes none of these lines.
  have same : ∀ line ∈ lines, dropEndWhile isBlank line = id line := bare
  rw [strippedLines, sourceLines_endLines unbroken, List.map_append, List.map_congr_left same,
    List.map_id]
  rfl

/-- Bringing a text into its layout ends its stripped lines but for the empty ones at both ends, and
caps the runs of line feeds. -/
theorem normalizeOf_eq_capBreaks (chars : List Char) :
    normalizeOf chars =
      capBreaks 0 (endLines (dropEndsWhile List.isEmpty (strippedLines chars))) := by
  have all : ∀ line ∈ strippedLines chars, '\n' ∉ line :=
    fun line member => (unbroken_of_mem_strippedLines member).1
  have front : ∀ line ∈ (strippedLines chars).dropWhile List.isEmpty, '\n' ∉ line :=
    fun line member => all line ((List.dropWhile_suffix _).mem member)
  have unbroken : ∀ line ∈ dropEndsWhile List.isEmpty (strippedLines chars), '\n' ∉ line :=
    fun line member => all line ((infix_dropEndsWhile _ _).mem member)
  -- Dropping line feeds from the ends is dropping empty lines, whatever is capped in between.
  have body : dropEndsWhile (· == '\n') (capBreaks 0 (stripLineEnds (unifyBreaksOf chars))) =
      capBreaks 0 (joinLines (dropEndsWhile List.isEmpty (strippedLines chars))) := by
    rw [dropEndsWhile, dropWhile_capBreaks, dropEndWhile_capBreaks, stripLineEnds_unifyBreaksOf,
      dropWhile_joinLines all, dropEndWhile_joinLines front, dropEndsWhile]
  have settled := dropEndWhile_joinLines unbroken
  have again : dropEndWhile List.isEmpty (dropEndsWhile List.isEmpty (strippedLines chars)) =
      dropEndsWhile List.isEmpty (strippedLines chars) :=
    List.rdropWhile_idempotent List.isEmpty _
  rw [again] at settled
  have ending := dropEndWhile_ending List.isEmpty ((strippedLines chars).dropWhile List.isEmpty)
  rw [← dropEndsWhile] at ending
  rw [normalizeOf, body]
  generalize dropEndsWhile List.isEmpty (strippedLines chars) = lines at ending settled ⊢
  rcases ending with rfl | ⟨before, line, rfl, full⟩
  -- Without any line there is no text.
  · rfl
  -- The text ends in the last character of the last line, so the line feed behind it is kept.
  · have filled : joinLines (before ++ [line]) ≠ [] := joinLines_ne_nil (by simpa using full)
    obtain ⟨start, c, whole, plain⟩ :=
      (dropEndWhile_ending (· == '\n') (joinLines (before ++ [line]))).resolve_left
        (by rwa [settled])
    have plain : c ≠ '\n' := by simpa using plain
    rw [settled] at whole
    rw [← joinLines_feed (by simp), whole, List.append_assoc, List.singleton_append,
      capBreaks_append_cons 0 start plain, capBreaks_append_cons 0 start plain]
    simp [capBreaks, maxBreaks]

/-- Bringing a text into its layout leaves its laid-out lines, each of them ended. -/
theorem normalizeOf_eq_endLines (chars : List Char) :
    normalizeOf chars = endLines (laidLines chars) := by
  have unbroken : ∀ line ∈ dropEndsWhile List.isEmpty (strippedLines chars), '\n' ∉ line :=
    fun line member =>
      (unbroken_of_mem_strippedLines ((infix_dropEndsWhile _ _).mem member)).1
  rw [normalizeOf_eq_capBreaks, laidLines]
  generalize opening : dropEndsWhile List.isEmpty (strippedLines chars) = lines at unbroken ⊢
  cases lines with
  | nil => rfl
  | cons line rest =>
    -- The first line is not empty, so that its line feed is the first of a run.
    have full : line ≠ [] := by simpa using head_dropEndsWhile opening
    have first := unbroken line List.mem_cons_self
    have others := capBreaks_endLines fun other member =>
      unbroken other (List.mem_cons_of_mem _ member)
    rw [endLines_cons, capBreaks_line full first, others, shortenRuns_cons full, endLines_cons]

/-- The lines that hold more than blanks are those of the text, in the same order. -/
theorem solidLines_normalizeOf (chars : List Char) :
    solidLines (normalizeOf chars) = solidLines chars := by
  have unbroken : ∀ line ∈ laidLines chars, '\n' ∉ line ∧ '\r' ∉ line :=
    fun line member => unbroken_of_mem_strippedLines (mem_strippedLines_of_laid member)
  -- The lines that come out have been stripped before.
  have bare : ∀ line ∈ laidLines chars, dropEndWhile isBlank line = line :=
    fun line member => stripped_of_mem_strippedLines (mem_strippedLines_of_laid member)
  calc solidLines (normalizeOf chars)
      = (laidLines chars).filter (fun line => !line.isEmpty) := by
        rw [solidLines, normalizeOf_eq_endLines, strippedLines_endLines unbroken bare,
          List.filter_append]
        simp
    _ = (dropEndsWhile List.isEmpty (strippedLines chars)).filter (fun line => !line.isEmpty) :=
        filter_shortenRuns _
    _ = solidLines chars := filter_dropEndsWhile List.isEmpty _

/-- Normalizing a text leaves its lines, cut at all kinds of line breaks, without the blanks at their
ends, without the empty lines at both ends of the text and with runs of empty lines shortened to two,
each line ended by a line feed; so the lines that hold more than blanks stay as they are and in
order. -/
theorem normalize_by_lines (text : String) :
    (normalize text).toList = endLines (laidLines text.toList) ∧
      solidLines (normalize text).toList = solidLines text.toList := by
  rw [normalize, String.toList_ofList]
  exact ⟨normalizeOf_eq_endLines _, solidLines_normalizeOf _⟩

/-- Blanks alone make an empty line, and empty lines between others are shortened. -/
example : sourceLines "a \r\r\n\t\n\n\nb".toList =
      ["a ".toList, [], "\t".toList, [], [], "b".toList] ∧
    normalize "a \r\r\n\t\n\n\nb" = "a\n\n\nb\n" := by
  decide +kernel

end Layout

end Stencil
