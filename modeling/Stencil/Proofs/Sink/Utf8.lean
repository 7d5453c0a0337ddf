import Stencil.Proofs.Reopen
import Stencil.Proofs.Sink.Files

/-! Files in UTF-8: every text has bytes, the bytes name the text, and what stands in a file decides
what writing to it and reading it back come to. -/

namespace Stencil

/-- The bytes of a text name the text, and no others do. -/
theorem decode_utf8 {bytes : ByteArray} {text : String} :
    Encoding.utf8.decode bytes = .ok text ↔ bytes = text.toUTF8 := by
  -- Decoding answers with a text exactly if the bytes are valid.
  simp only [Encoding.decode, String.fromUTF8?, String.toUTF8_eq_toByteArray]
  split
  · rename_i found same
    split at same
    · rename_i valid
      cases same
      -- A text is its bytes, together with the proof that they are valid.
      simp only [Except.ok.injEq, ← String.toByteArray_inj]
      rfl
    · cases same
  · rename_i none
    split at none
    · cases none
    · rename_i invalid
      constructor
      · intro same
        cases same
      · intro same
        exact absurd (same ▸ text.isValidUTF8) invalid

namespace FileSettings

/-- The bytes of texts one after the other are those of the joined text. -/
theorem encodeAll_utf8 (texts : List String) :
    encodeAll .utf8 texts = .ok (String.join texts).toUTF8 := by
  -- The bytes of an appended text come after those of the text before it.
  induction texts with
  | nil => rfl
  | cons text rest ih =>
    simp [encodeAll, Encoding.encode, ih, Bind.bind, Except.bind, Pure.pure, Except.pure]

/-- Writing texts in UTF-8 fails only where the destination cannot be opened. -/
theorem Writing.utf8 {settings : FileSettings} {place : Place} {path : Path} {texts : List String}
    {state after : FileState} {result : Except Failure Unit}
    (writing : Writing settings place path texts state result after)
    (utf8 : settings.encoding = .utf8) :
    (∃ failure, result = .error failure ∧ Opening settings place path state (.error failure) after) ∨
      (result = .ok () ∧ path ∉ state.created ∧ ∃ location later,
        after = ⟨later, state.created ++ [path], state.written ++ [path]⟩ ∧
        Disk.Keeps (· = location) state.disk later ∧ later.find path = .ok location ∧
        later.fileAt? location = some (String.join texts).toUTF8) := by
  -- A text always has its bytes, so no writing is spoiled.
  cases writing with
  | unopened opening => exact Or.inl ⟨_, rfl, opening⟩
  | spoiled fresh unencoded kept found =>
    rw [utf8, encodeAll_utf8] at unencoded
    cases unencoded
  | written fresh absent encoded kept found held =>
    rw [utf8, encodeAll_utf8] at encoded
    cases encoded
    exact Or.inr ⟨rfl, fresh, _, _, rfl, kept, found, held⟩

/-- A class file that is there is written anew if its path does not count as created. -/
theorem writeTo_again {settings : FileSettings} (utf8 : settings.encoding = .utf8)
    {package name : String} {path : Path}
    (resolved : settings.resolve .classes package name = path) (plain : path.Plain)
    (below : path.parts ≠ []) {outlet : Outlet FileState} {content : ByteArray}
    (held : outlet.state.disk.readFile path = .ok content) (fresh : path ∉ outlet.state.created)
    (texts : List String) :
    ∃ location later log, settings.sink.writeTo .classes package name texts outlet =
        (.ok (), ⟨⟨later, outlet.state.created ++ [path], outlet.state.written ++ [path]⟩,
          outlet.diagnostics, log⟩) ∧
      Disk.Keeps (· = location) outlet.state.disk later ∧ later.find path = .ok location ∧
      later.fileAt? location = some (String.join texts).toUTF8 := by
  -- Writing either succeeds or was refused when the destination was opened.
  obtain ⟨result, state, log, wrote, writing⟩ :=
    writeTo_writing settings .classes package name texts outlet
  rw [resolved] at writing
  rcases writing.utf8 utf8 with ⟨failure, refused, opening⟩ | ⟨done, _, location, later, same, kept⟩
  -- Nothing speaks against opening: the path is new, no source, and its directories are there.
  · cases opening with
    | repeated known => exact absurd known fresh
    | existing _ _ source _ => cases source
    | refused _ _ _ blocked _ =>
      obtain ⟨above, place, opened, created⟩ := Disk.reopen plain below held
      exact absurd created (blocked rfl _ above _)
  · subst done same
    exact ⟨location, later, log, wrote, kept⟩

end FileSettings

end Stencil
