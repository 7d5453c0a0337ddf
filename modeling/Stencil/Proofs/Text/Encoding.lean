import Mathlib.Data.List.TakeWhile
import Stencil.Proofs.Sink.Utf8

/-! Laws of the encodings: the texts that each of them can express have bytes, and these bytes read
as the text. -/

namespace Stencil

namespace Encoding

/-- Every character has a number of its own in UTF-8. -/
theorem expresses_utf8 (c : Char) : utf8.expresses c = true := by
  -- No character lies beyond the last code point.
  have valid : c.toNat < 0xD800 ∨ 0xDFFF < c.toNat ∧ c.toNat < 0x110000 := c.valid
  have small : c.toNat < utf8.range := show c.toNat < 0x110000 by omega
  exact decide_eq_true small

/-- A text has bytes exactly if the encoding expresses each of its characters. -/
theorem encode_isOk_iff {encoding : Encoding} {text : String} :
    (∃ bytes, encoding.encode text = .ok bytes) ↔
      ∀ c ∈ text.toList, encoding.expresses c = true := by
  constructor
  · rintro ⟨bytes, encoded⟩
    cases encoding with
    | utf8 => exact fun c _ => expresses_utf8 c
    | ascii | latin1 =>
      -- A first character that is not expressed would be the fault.
      refine List.dropWhile_eq_nil_iff.1 ?_
      simp only [encode] at encoded
      split at encoded
      · assumption
      · cases encoded
  · intro expressed
    cases encoding with
    | utf8 => exact ⟨_, rfl⟩
    | ascii | latin1 =>
      -- Without a character to refuse, each one is a byte.
      exact ⟨narrowBytes text.toList, by
        simp [encode, List.dropWhile_eq_nil_iff.2 expressed]⟩

/-- The bytes of a text are one for each character, unless the encoding is UTF-8. -/
theorem encode_narrow {encoding : Encoding} (narrow : encoding ≠ .utf8) {text : String}
    {bytes : ByteArray} (encoded : encoding.encode text = .ok bytes) :
    bytes = narrowBytes text.toList := by
  -- Without a fault there is only one answer.
  have unspoiled := List.dropWhile_eq_nil_iff.2 (encode_isOk_iff.1 ⟨bytes, encoded⟩)
  cases encoding with
  | utf8 => exact absurd rfl narrow
  | ascii | latin1 => simpa [encode, unspoiled] using encoded.symm

/-- A character whose number fits into a byte is found again from the byte. -/
theorem ofNat_toUInt8 {c : Char} (small : c.toNat < 256) :
    Char.ofNat c.toNat.toUInt8.toNat = c := by
  rw [UInt8.toNat_ofNat', Nat.mod_eq_of_lt small, Char.ofNat_toNat]

/-- One byte for each character is a text again, if every number fits. -/
theorem narrowText_narrowBytes {text : String} (small : ∀ c ∈ text.toList, c.toNat < 256) :
    narrowText (narrowBytes text.toList) = text := by
  -- Character by character, the number goes into a byte and comes back.
  have same : (text.toList.map fun c => Char.ofNat c.toNat.toUInt8.toNat) = text.toList := by
    rw [List.map_congr_left fun c member => ofNat_toUInt8 (small c member), List.map_id']
  simp only [narrowText, narrowBytes, List.map_map, Function.comp_def, same, String.ofList_toList]

/-- Bytes of characters in the seven-bit range are at no fault. -/
theorem asciiFault?_chars (chars : List Char) (small : ∀ c ∈ chars, c.toNat < 128)
    (position : Nat) : asciiFault? position (chars.map fun c => c.toNat.toUInt8) = none := by
  -- Each byte passes the test, wherever it stands.
  induction chars generalizing position with
  | nil => rfl
  | cons c rest ih =>
    have first := small c List.mem_cons_self
    have below : c.toNat.toUInt8 < 0x80 := by
      rw [UInt8.lt_iff_toNat_lt, UInt8.toNat_ofNat', Nat.mod_eq_of_lt (by omega)]
      exact first
    rw [List.map_cons, asciiFault?, if_pos below]
    exact ih (fun other member => small other (List.mem_cons_of_mem _ member)) _

/-- What a text is encoded as decodes to the text. -/
theorem decode_encode {encoding : Encoding} {text : String} {bytes : ByteArray}
    (encoded : encoding.encode text = .ok bytes) : encoding.decode bytes = .ok text := by
  have expressed := encode_isOk_iff.1 ⟨bytes, encoded⟩
  simp only [expresses, decide_eq_true_eq] at expressed
  cases encoding with
  | utf8 =>
    cases encoded
    exact decode_utf8.2 rfl
  | ascii =>
    -- Seven bits are enough for every character, so the bytes are accepted as well.
    rw [encode_narrow (by decide) encoded]
    have sound := asciiFault?_chars text.toList expressed 0
    have small : ∀ c ∈ text.toList, c.toNat < 256 := fun c member =>
      (expressed c member).trans (by decide)
    simp only [decode, narrowBytes, sound]
    exact congrArg Except.ok (narrowText_narrowBytes small)
  -- Every byte is a character, so nothing can be refused.
  | latin1 =>
    rw [encode_narrow (by decide) encoded]
    exact congrArg Except.ok (narrowText_narrowBytes expressed)

/-- The bytes of an appended text come after those of the text before it. -/
theorem encode_append {encoding : Encoding} {first second : String} {bytes more : ByteArray}
    (encoded : encoding.encode first = .ok bytes) (others : encoding.encode second = .ok more) :
    encoding.encode (first ++ second) = .ok (bytes ++ more) := by
  have expressed : ∀ c ∈ (first ++ second).toList, encoding.expresses c = true := by
    intro c member
    rw [String.toList_append] at member
    exact (List.mem_append.1 member).elim (encode_isOk_iff.1 ⟨_, encoded⟩ c)
      (encode_isOk_iff.1 ⟨_, others⟩ c)
  -- All characters of both texts are expressed, so the appended text has bytes.
  obtain ⟨joined, whole⟩ := encode_isOk_iff.2 expressed
  rw [whole]
  by_cases wide : encoding = .utf8
  · subst wide
    cases encoded
    cases others
    cases whole
    simp
  -- All of them have one byte for each character.
  · rw [encode_narrow wide whole, encode_narrow wide encoded, encode_narrow wide others]
    simp [narrowBytes, ByteArray.ext_iff]

/-- The bytes of texts one after the other are those of the joined text. -/
theorem encode_join {encoding : Encoding} {texts : List String} {bytes : ByteArray}
    (encoded : FileSettings.encodeAll encoding texts = .ok bytes) :
    encoding.encode (String.join texts) = .ok bytes := by
  induction texts generalizing bytes with
  | nil =>
    cases encoded
    cases encoding <;> rfl
  | cons text rest ih =>
    -- The first text has bytes, and so have the others.
    simp only [FileSettings.encodeAll, Bind.bind, Except.bind, Pure.pure, Except.pure] at encoded
    split at encoded
    · cases encoded
    · rename_i first here
      split at encoded
      · cases encoded
      · rename_i more others
        cases encoded
        rw [String.join_cons]
        exact encode_append here (ih others)

end Encoding

end Stencil
