import Stencil.Path
import Stencil.Proofs.Text.Blank

/-! Laws of paths: the parts of joined texts, and where a row of texts leads from a path. -/

namespace Stencil

namespace Path

/-- A text that can be a component is its own only part. -/
theorem partsOf_component {part : String} (component : isComponent part = true) :
    partsOf part = [part] := by
  -- It holds no slash at which it could be cut, and the filter keeps it.
  simp only [isComponent, Bool.and_eq_true, Bool.not_eq_true', List.contains_eq_mem,
    decide_eq_false_iff_not] at component
  obtain ⟨⟨full, other⟩, slashless⟩ := component
  have whole : splitAt '/' part = [part] := by
    have cut : cutAt (· == '/') part.toList = [part.toList] :=
      cutAt_eq_singleton fun c member => by
        have different : c ≠ '/' := fun same => slashless (same ▸ member)
        simpa using different
    simp [splitAt, cut]
  simp [partsOf, whole, full, other]

/-- A slash between two texts ends the parts of the first. -/
theorem partsOf_slash (left right : String) :
    partsOf (left ++ "/" ++ right) = partsOf left ++ partsOf right := by
  -- The slash is a separator, and the filter looks at each piece alone.
  have cut := cutAt_append_separator (· == '/') left.toList right.toList
    (show ('/' == '/') = true from rfl)
  simp only [partsOf, splitAt, ← List.filter_append, ← List.map_append, ← cut]
  simp

/-- Texts with a slash after each have the parts of all of them. -/
theorem partsOf_slashed (texts : List String) (name : String) :
    partsOf (String.join (texts.map (· ++ "/")) ++ name) =
      texts.flatMap partsOf ++ partsOf name := by
  -- One text at a time leaves the front.
  induction texts with
  | nil => simp
  | cons text rest ih =>
    have split : String.join ((text :: rest).map (· ++ "/")) ++ name =
        text ++ "/" ++ (String.join (rest.map (· ++ "/")) ++ name) := by
      simp [String.ext_iff]
    rw [split, partsOf_slash, ih, List.flatMap_cons, List.append_assoc]

@[simp] theorem start_anchor (anchor : Anchor) : (start anchor).anchor = anchor := rfl

@[simp] theorem start_parts (anchor : Anchor) : (start anchor).parts = [] := rfl

@[simp] theorem extend_anchor (path : Path) (text : String) :
    (path.extend text).anchor = path.anchor := rfl

@[simp] theorem extend_parts (path : Path) (text : String) :
    (path.extend text).parts = path.parts ++ partsOf text := rfl

/-- A text that names no start leads on from the path. -/
theorem join_relative {text : String} (relative : anchorOf text = .relative) (path : Path) :
    path.join text = path.extend text := by
  simp [join, relative]

/-- A text that names a start leads away from any path. -/
theorem join_absolute {text : String} (absolute : anchorOf text ≠ .relative) (path : Path) :
    path.join text = (start (anchorOf text)).extend text := by
  unfold join
  split
  · rename_i relative
    exact absurd relative absolute
  · rfl

/-- Texts that name no start lead on by all of their parts. -/
theorem joinAll_relative {texts : List String}
    (relative : ∀ text ∈ texts, anchorOf text = .relative) (path : Path) :
    (path.joinAll texts).anchor = path.anchor ∧
      (path.joinAll texts).parts = path.parts ++ texts.flatMap partsOf := by
  -- Each text adds its parts to those of the texts before it.
  induction texts generalizing path with
  | nil => simp [joinAll]
  | cons text rest ih =>
    have here := join_relative (relative text List.mem_cons_self) path
    obtain ⟨anchor, parts⟩ := ih
      (fun other member => relative other (List.mem_cons_of_mem _ member)) (path.join text)
    simp only [joinAll, List.foldl_cons] at anchor parts ⊢
    rw [anchor, parts, here]
    simp

/-- The last text that names a start decides, and nothing before it counts. -/
theorem joinAll_absolute {text : String} {after : List String}
    (absolute : anchorOf text ≠ .relative)
    (relative : ∀ later ∈ after, anchorOf later = .relative) (path : Path) (before : List String) :
    (path.joinAll (before ++ text :: after)).anchor = anchorOf text ∧
      (path.joinAll (before ++ text :: after)).parts =
        partsOf text ++ after.flatMap partsOf := by
  -- Joined from there on, all texts are relative.
  obtain ⟨anchor, parts⟩ := joinAll_relative relative ((path.joinAll before).join text)
  simp only [joinAll, List.foldl_append, List.foldl_cons] at anchor parts ⊢
  rw [anchor, parts, join_absolute absolute]
  simp

/-- Either no text names a start, or one of them is the last to do so. -/
theorem last_absolute (texts : List String) :
    (∀ text ∈ texts, anchorOf text = .relative) ∨
      ∃ before text after, texts = before ++ text :: after ∧ anchorOf text ≠ .relative ∧
        ∀ later ∈ after, anchorOf later = .relative := by
  -- Seen from the end, the first text that names a start is the last one.
  induction texts with
  | nil => exact Or.inl (by simp)
  | cons text rest ih =>
    rcases ih with relative | ⟨before, found, after, same, absolute, relative⟩
    · by_cases here : anchorOf text = .relative
      · exact Or.inl (by simpa [here] using relative)
      · exact Or.inr ⟨[], text, rest, rfl, here, relative⟩
    · exact Or.inr ⟨text :: before, found, after, by simp [same], absolute, relative⟩

/-- A text leads on from a path exactly if it does not begin with a slash. -/
theorem anchorOf_relative_iff (text : String) :
    anchorOf text = .relative ↔ startsWith text "/" = false := by
  -- Only a text without leading slashes has none to count.
  unfold anchorOf startsWith
  cases text.toList with
  | nil => simp
  | cons c rest =>
    by_cases slash : c = '/'
    · subst slash
      simp only [List.takeWhile_cons, beq_self_eq_true, if_true, List.length_cons]
      split <;> simp_all
    · simp [slash, List.isPrefixOf, Ne.symm slash]

end Path

end Stencil
