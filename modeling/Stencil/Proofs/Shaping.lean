import Stencil.Indent
import Stencil.Proofs.Attempt
import Stencil.Proofs.Text.Blank
import Stencil.Shaping

/-! Joining the words of a text on one line: it changes the space between the words only, it is
decided by the first rendering, and it is done again without a change. -/

namespace Stencil

/-! ### Words -/

/-- A blank ends the word before it. -/
theorem wordsOf_append_blank {c : Char} (blank : isBlank c = true) (left right : List Char) :
    wordsOf (left ++ c :: right) = wordsOf left ++ wordsOf right := by
  rw [wordsOf, cutAt_append_separator isBlank left right blank, List.filter_append]
  rfl

/-- Characters of which none is blank are one word. -/
theorem wordsOf_word {word : List Char} (full : word ≠ [])
    (solid : ∀ c ∈ word, isBlank c = false) : wordsOf word = [word] := by
  simp [wordsOf, cutAt_eq_singleton solid, full]

/-- A word has a character, and none of its characters is blank. -/
theorem solid_of_mem_wordsOf {chars word : List Char} (member : word ∈ wordsOf chars) :
    word ≠ [] ∧ ∀ c ∈ word, isBlank c = false := by
  obtain ⟨piece, full⟩ := List.mem_filter.1 member
  exact ⟨by simpa using full, cutAt_clean isBlank piece⟩

/-- Words with one space between them are the words of what they make up. -/
theorem wordsOf_intercalate {parts : List (List Char)}
    (solid : ∀ part ∈ parts, part ≠ [] ∧ ∀ c ∈ part, isBlank c = false) :
    wordsOf ([' '].intercalate parts) = parts := by
  induction parts with
  | nil => rfl
  | cons part rest ih =>
    have here := solid part List.mem_cons_self
    have later := ih fun other member => solid other (List.mem_cons_of_mem _ member)
    cases rest with
    | nil => rw [List.intercalate_singleton, wordsOf_word here.1 here.2]
    | cons next more =>
      -- The space behind the first word ends it.
      rw [List.intercalate_cons_cons, List.append_assoc, List.singleton_append,
        wordsOf_append_blank (by decide), wordsOf_word here.1 here.2, later]
      rfl

namespace Shaping

/-- Joining keeps the words of a text. -/
theorem words_joinWords (text : String) : words (joinWords text) = words text := by
  -- Words that are joined by single spaces are cut at these spaces again.
  have chars : (joinWords text).toList = [' '].intercalate (wordsOf text.toList) := by
    rw [joinWords, String.toList_intercalate, words, List.map_map]
    simp [Function.comp_def]
  rw [words, words, chars, wordsOf_intercalate fun _ => solid_of_mem_wordsOf]

/-- A joined line is joined already. -/
theorem joinWords_joinWords (text : String) : joinWords (joinWords text) = joinWords text := by
  rw [joinWords, words_joinWords, joinWords]

/-- What fits beside an indentation fits beside every smaller one. -/
theorem fits_mono {line : String} {width smaller : Int} (less : smaller ≤ width)
    (fitting : fits line width = true) : fits line smaller = true := by
  simp only [fits, decide_eq_true_eq] at fitting ⊢
  omega

/-- Of a fixed text, the joined words are left if they fit, and otherwise the text as it is. -/
theorem linesShortable_fixed {m : Type → Type} [Monad m] [LawfulMonad m] (text : String)
    (width : Int) :
    linesShortable (m := m) (.fixed text) (pure width) =
      pure (if fits (joinWords text) width then joinWords text else text) := by
  simp only [linesShortable, Renderer.fixed, pure_bind]
  split <;> rfl

variable {σ : Type}

/-- A renderer that notes the number of every call it receives. -/
def noted (render : Renderer (Attempt σ)) : Renderer (Attempt (List Nat × σ)) := fun call => do
  Attempt.change fun (calls, state) => (calls ++ [call], state)
  (render call).onPart Prod.snd fun state (calls, _) => (calls, state)

/-- A noted call does what the call does, and notes its number. -/
theorem noted_apply (render : Renderer (Attempt σ)) (call : Nat) (calls : List Nat) (state : σ) :
    noted render call (calls, state) =
      ((render call state).1, (calls ++ [call], (render call state).2)) := rfl

/-- The joined words of the first rendering are left if they fit, and otherwise a second rendering
is. -/
theorem linesShortable_apply (render : Renderer (Attempt σ)) (width : Int) {state after : σ}
    {first : String} (rendered : render 0 state = (.ok first, after)) :
    linesShortable render (pure width) state =
      if fits (joinWords first) width then (.ok (joinWords first), after) else render 1 after := by
  unfold linesShortable
  rw [Attempt.bind_of_ok rendered, Attempt.bind_of_ok (Attempt.pure_apply width after)]
  split <;> rfl

/-- A renderer whose every call counts on, and writes one word more. -/
def counting : Renderer (Attempt Nat) := fun _ count =>
  (.ok (String.join (List.replicate (count + 1) " word")), count + 1)

end Shaping

end Stencil
