import Stencil.Proofs.Target.Publish

/-! Merging the same texts into a manifest again and again comes to rest, and neither the pieces in
which texts are contributed nor contributing them twice makes a difference. -/

namespace Stencil

namespace ServiceTarget

open Manifest

variable {σ : Type}

/-- Over every text, publishing some texts writes one text and no other, on whatever sink. It begins
with the entries that were there. Publishing the same texts over it changes nothing if none of their
lines is a comment, and publishing them a third time never does. -/
theorem merging_settles (prior : String) (texts : List String) :
    ∃ first second third,
      (∀ text, Merges prior texts text ↔ text = first) ∧
      (∀ text, Merges first texts text ↔ text = second) ∧
      (∀ text, Merges second texts text ↔ text = third) ∧
      ((∀ line ∈ texts.flatMap Stencil.lines, isComment line = false) → second = first) ∧
      third = second ∧
      ((Stencil.lines prior).filter isEntry).eraseDups <+: Stencil.lines first := by
  have unbroken : ∀ line ∈ texts.flatMap Stencil.lines, isUnbroken line = true :=
    fun _ member => isUnbroken_of_mem_flatMap member
  -- Each of the three texts is the one before it, updated with the lines.
  refine ⟨_, _, _, fun _ => merges_iff, fun _ => merges_iff, fun _ => merges_iff, ?_, ?_, ?_⟩
  · exact fun plain => update_update_plain prior unbroken plain
  · exact update_update_update prior unbroken
  · exact entries_prefix_update prior unbroken

/-- A comment is not kept, so it can move behind the entries the second time. -/
example : update "b\n" ["#c", "a"] = "b\n#c\na\n" ∧
    update "b\n#c\na\n" ["#c", "a"] = "b\na\n#c\n" := by
  decide +kernel

/-- Publishing texts comes to the same, on every sink and over whatever stands there, if two of them
that follow one another are joined by a line feed, and also if any block of them is contributed once
more somewhere behind it. -/
theorem publish_pieces (sink : Sink σ) (key : TargetKey) (before after : List String) :
    (∀ text other, publish sink key (before ++ [text, other] ++ after) =
      publish sink key (before ++ [text ++ "\n" ++ other] ++ after)) ∧
    ∀ block between, publish sink key (before ++ block ++ between ++ block ++ after) =
      publish sink key (before ++ block ++ between ++ after) := by
  refine ⟨fun text other => publish_congr (fun earlier => ?_) sink key,
    fun block between => publish_congr (fun earlier => ?_) sink key⟩
  -- The lines are the same but for an empty one, which is not merged anyway.
  · have joined := filled_lines_feed_between text other
    simp only [merge_eq, List.flatMap_append, List.flatMap_cons, List.flatMap_nil,
      List.append_nil, List.filter_append] at joined ⊢
    rw [joined]
  -- All lines of the block have come before.
  · have inside : ∀ line ∈ block.flatMap Stencil.lines,
        line ∈ (before ++ block ++ between).flatMap Stencil.lines := by
      intro line member
      simp only [List.flatMap_append, List.mem_append]
      exact Or.inl (Or.inr member)
    have dropped := merge_inside earlier inside (after.flatMap Stencil.lines)
    rw [← List.flatMap_append, ← List.flatMap_append, ← List.flatMap_append,
      ← List.append_assoc] at dropped
    exact dropped

end ServiceTarget

end Stencil
