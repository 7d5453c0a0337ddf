import Stencil.Proofs.Target.Publish
import Stencil.Proofs.Target.ServiceFile
import Stencil.Proofs.Text.Encoding

/-! Reading the entries of a manifest that was written: they come back as they were, but for the
comments among them. -/

namespace Stencil

namespace ServiceTarget

open Attempt Manifest

variable {σ : Type}

/-- A text is read as some entries of an earlier build, on whatever sink it is found. -/
def ReadAs (text : String) (entries : List String) : Prop :=
  ∀ {σ : Type} (sink : Sink σ) (key : TargetKey) (outlet : Outlet σ),
    (sink.readFrom .classes key.package key.name outlet).1 = .ok text →
      (existingEntries sink key outlet).1 = .ok entries

/-- Entries without line breaks, each on a line of its own, are read but for the comments. -/
theorem readAs_toText {entries : List String}
    (unbroken : ∀ entry ∈ entries, isUnbroken entry = true) :
    ReadAs (toText entries) (entries.filter fun entry => !isComment entry) := by
  -- The lines of the text are the entries.
  intro σ sink key outlet read
  obtain ⟨log, existing⟩ := existingEntries_apply sink key outlet
  rw [existing, read]
  exact congrArg (fun all => Except.ok (all.filter fun line => !isComment line))
    (lines_toText unbroken)

/-- Texts that were published to files can be read where they were published: a line for each of
some entries without line breaks. -/
theorem publish_file {settings : FileSettings} {key : TargetKey} {texts : List String}
    {outlet after : Outlet FileState} {artifact : Option Artifact}
    (done : publish settings.sink key texts outlet = (.ok artifact, after)) :
    ∃ entries, (∀ entry ∈ entries, isUnbroken entry = true) ∧
      ∀ next : Outlet FileState, next.state.disk = after.state.disk →
        (settings.sink.readFrom .classes key.package key.name next).1 = .ok (toText entries) := by
  -- The entries are read, merged and written, and the last step decides.
  obtain ⟨log, existing⟩ := existingEntries_file settings key outlet
  rw [publish_eq, bind_of_ok existing] at done
  obtain ⟨_, between, emitted, noted⟩ := bind_eq_ok.1 done
  cases noted
  obtain ⟨result, state, log, wrote, writing⟩ :=
    FileSettings.writeTo_writing settings .classes key.package key.name _ _
  cases (emit_eq_ok.1 emitted).symm.trans wrote
  cases writing with
  | written fresh absent encoded kept found held =>
    -- The bytes of all lines are those of the whole text.
    have unbroken := unbroken_of_mem_merge
      (settings.textAt outlet.state.disk (settings.resolve .classes key.package key.name))
      fun line (member : line ∈ texts.flatMap Stencil.lines) => isUnbroken_of_mem_flatMap member
    refine ⟨_, unbroken, fun next same => ?_⟩
    have content := Disk.readFile_eq_ok.2 ⟨_, found, held⟩
    have decoded := Encoding.decode_encode (Encoding.encode_join encoded)
    have disk : next.state.disk = _ := same
    rw [FileSettings.readFrom_file, disk]
    simp only [content, decoded, mapError_ok]
    rfl

/-- No line of a text holds any of the line breaks, and lines that are each ended by a line feed are
cut into the same lines again. So a manifest is a line for each of its entries: where a service has
written some, whoever reads them, on whatever sink, gets those of them that are no comments. On
files they are read where the service was committed, as long as the disk stays as it is. -/
theorem entries_read_back :
    (∀ text, ∀ line ∈ Stencil.lines text, ∀ c ∈ lineBreaks, c ∉ line.toList) ∧
      (∀ text, Stencil.lines (String.join ((Stencil.lines text).map (· ++ "\n"))) =
        Stencil.lines text) ∧
      (∀ {σ : Type} (sink : Sink σ) (key : TargetKey) (texts : List String)
        (outlet : Outlet (Watched σ)), outlet.state.events = [] →
          (publish sink.watched key texts outlet).1.isOk = true →
          ∃ entries : List String, (publish sink.watched key texts outlet).2.state.texts =
              entries.map (· ++ "\n") ∧
            ReadAs (String.join (entries.map (· ++ "\n")))
              (entries.filter fun entry => !isComment entry)) ∧
      ∀ (settings : FileSettings) (key : TargetKey) (texts : List String)
        (outlet after : Outlet FileState) (artifact : Option Artifact),
          publish settings.sink key texts outlet = (.ok artifact, after) →
          ∃ entries : List String, ∀ next : Outlet FileState, next.state.disk = after.state.disk →
            (settings.sink.readFrom .classes key.package key.name next).1 =
                .ok (String.join (entries.map (· ++ "\n"))) ∧
              (existingEntries settings.sink key next).1 =
                .ok (entries.filter fun entry => !isComment entry) := by
  refine ⟨fun text line member c broken inside => ?_, fun text => ?_, ?_, ?_⟩
  -- A line of a text is unbroken by any of the characters that end lines.
  · have plain : ∀ c ∈ line.toList, isLineBreak c = false := by
      simpa [isUnbroken] using isUnbroken_of_mem_lines member
    exact absurd (isLineBreak_iff.2 broken) (by simp [plain c inside])
  · exact lines_join fun line member => isUnbroken_of_mem_lines member
  -- Whatever was read before, the entries that were merged hold no line break.
  · intro σ sink key texts outlet blank succeeds
    refine ⟨_, publish_texts blank succeeds, readAs_toText ?_⟩
    exact unbroken_of_mem_merge _ fun _ => isUnbroken_of_mem_flatMap
  · intro settings key texts outlet after artifact done
    -- The text that stands on the disk is the one that was written.
    obtain ⟨entries, unbroken, found⟩ := publish_file done
    exact ⟨entries, fun next same => ⟨found next same,
      readAs_toText unbroken settings.sink key next (found next same)⟩⟩

/-- A comment is a line like any other when it is written, and is left out when it is read. -/
example : toText ["#c", "a", "b"] = "#c\na\nb\n" ∧ kept "#c\na\nb\n" = ["a", "b"] := by
  decide +kernel

/-- Files in ASCII. -/
def narrowFiles : FileSettings := ⟨.ofString "src", .ofString "res", false, .ascii⟩

/-- Two texts with a comment, a repeated line and three kinds of line break are read back from a
file. -/
theorem commented_texts_read_back :
    ∃ artifact after,
      publish narrowFiles.sink ⟨"", "s"⟩ ["#c\x0ca\r\n", "b\x1ca"] ⟨.start Disk.fresh, [], []⟩ =
          (.ok artifact, after) ∧
        ∃ entries : List String, (narrowFiles.sink.readFrom .classes "" "s" after).1 =
            .ok (String.join (entries.map (· ++ "\n"))) ∧
          (existingEntries narrowFiles.sink ⟨"", "s"⟩ after).1 =
            .ok (entries.filter fun entry => !isComment entry) := by
  have succeeds : (publish narrowFiles.sink ⟨"", "s"⟩ ["#c\x0ca\r\n", "b\x1ca"]
      ⟨.start Disk.fresh, [], []⟩).1.isOk = true := by
    decide +kernel
  rcases done : publish narrowFiles.sink ⟨"", "s"⟩ ["#c\x0ca\r\n", "b\x1ca"]
      ⟨.start Disk.fresh, [], []⟩ with ⟨failure | artifact, after⟩
  · rw [done] at succeeds
    cases succeeds
  -- As publishing succeeds, the general statement applies.
  · obtain ⟨entries, all⟩ := entries_read_back.2.2.2 narrowFiles _ _ _ _ _ done
    exact ⟨artifact, after, rfl, entries, all after rfl⟩

end ServiceTarget

end Stencil
