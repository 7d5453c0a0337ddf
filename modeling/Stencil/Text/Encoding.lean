import Stencil.Text.Quoted

/-! Text encodings of files: writing text as bytes, reading it back, and the faults of both. -/

namespace Stencil

/-- The encodings in which files are written and read. -/
inductive Encoding where
  | utf8
  | ascii
  | latin1
deriving DecidableEq, Repr

/-- What makes bytes no text of the encoding. -/
inductive DecodeReason where
  | badStart
  | badContinuation
  | truncated
  | outOfRange
deriving DecidableEq, Repr

/-- A text that its encoding cannot express: the first run of such characters. -/
structure EncodeFault where
  encoding : Encoding
  char : Char
  first : Nat
  last : Nat
deriving DecidableEq, Repr

/-- Bytes that are no text: the first stretch at fault, by position. -/
structure DecodeFault where
  encoding : Encoding
  byte : UInt8
  first : Nat
  last : Nat
  reason : DecodeReason
deriving DecidableEq, Repr

namespace Encoding

/-- The name of an encoding in messages. -/
def name : Encoding → String
  | utf8 => "utf-8"
  | ascii => "ascii"
  | latin1 => "latin-1"

/-- The number of characters that a one-byte encoding has, counted from zero. -/
def range : Encoding → Nat
  | utf8 => 0x110000
  | ascii => 128
  | latin1 => 256

/-- Tests whether a character can be written in the encoding. -/
def expresses (encoding : Encoding) (c : Char) : Bool := c.toNat < encoding.range

/-- The bytes of a text all of whose characters have one byte each. -/
def narrowBytes (chars : List Char) : ByteArray :=
  ⟨(chars.map fun c => c.toNat.toUInt8).toArray⟩

/-- Writes a text as bytes, or points to the first run of characters that have none. Each character of
a text is a Unicode scalar value, so UTF-8 has bytes for all of them. -/
def encode (encoding : Encoding) (text : String) : Except EncodeFault ByteArray :=
  match encoding with
  | utf8 => .ok text.toUTF8
  | _ =>
    let fit := text.toList.takeWhile encoding.expresses
    match text.toList.dropWhile encoding.expresses with
    | [] => .ok (narrowBytes text.toList)
    | c :: rest =>
      let more := rest.takeWhile fun other => !encoding.expresses other
      .error ⟨encoding, c, fit.length, fit.length + more.length⟩

end Encoding

/-- How a UTF-8 sequence goes on: the second byte's bounds, then the count of bytes after it. -/
structure SequenceShape where
  low : UInt8
  high : UInt8
  more : Nat

/-- The shape that a first byte of several announces. -/
def sequenceShape? (b : UInt8) : Option SequenceShape :=
  if 0xC2 ≤ b && b ≤ 0xDF then some ⟨0x80, 0xBF, 0⟩
  else if b == 0xE0 then some ⟨0xA0, 0xBF, 1⟩
  else if b == 0xED then some ⟨0x80, 0x9F, 1⟩
  else if 0xE1 ≤ b && b ≤ 0xEF then some ⟨0x80, 0xBF, 1⟩
  else if b == 0xF0 then some ⟨0x90, 0xBF, 2⟩
  else if 0xF1 ≤ b && b ≤ 0xF3 then some ⟨0x80, 0xBF, 2⟩
  else if b == 0xF4 then some ⟨0x80, 0x8F, 2⟩
  else none

/-- Counts the plain continuation bytes at the front, up to a limit. -/
def countContinuations : Nat → List UInt8 → Nat
  | 0, _ => 0
  | _, [] => 0
  | limit + 1, b :: rest =>
    if 0x80 ≤ b && b ≤ 0xBF then countContinuations limit rest + 1 else 0

/-- The first fault of bytes that are no UTF-8 text, from a position on. -/
def utf8Fault? (position : Nat) : List UInt8 → Option DecodeFault
  | [] => none
  | b :: rest =>
    if b < 0x80 then utf8Fault? (position + 1) rest
    else match sequenceShape? b with
      | none => some ⟨.utf8, b, position, position, .badStart⟩
      | some shape =>
        match rest with
        | [] => some ⟨.utf8, b, position, position, .truncated⟩
        | second :: others =>
          if second < shape.low || shape.high < second then
            some ⟨.utf8, b, position, position, .badContinuation⟩
          else
            let held := countContinuations shape.more others
            if held < shape.more then
              let last := position + 1 + held
              if others.length ≤ held then some ⟨.utf8, b, position, last, .truncated⟩
              else some ⟨.utf8, b, position, last, .badContinuation⟩
            else utf8Fault? (position + 2 + shape.more) (others.drop shape.more)
termination_by bytes => bytes.length

/-- The first byte outside a seven-bit encoding, from a position on. -/
def asciiFault? (position : Nat) : List UInt8 → Option DecodeFault
  | [] => none
  | b :: rest =>
    if b < 0x80 then asciiFault? (position + 1) rest
    else some ⟨.ascii, b, position, position, .outOfRange⟩

/-- The text whose characters have the numbers of the bytes. -/
def narrowText (bytes : ByteArray) : String :=
  String.ofList (bytes.data.toList.map fun b => Char.ofNat b.toNat)

namespace Encoding

/-- Reads bytes as text, or points to the first stretch that is none. -/
def decode (encoding : Encoding) (bytes : ByteArray) : Except DecodeFault String :=
  match encoding with
  | utf8 =>
    match String.fromUTF8? bytes with
    | some text => .ok text
    | none =>
      .error ((utf8Fault? 0 bytes.data.toList).getD ⟨.utf8, 0, 0, 0, .badStart⟩)
  | ascii =>
    match asciiFault? 0 bytes.data.toList with
    | none => .ok (narrowText bytes)
    | some fault => .error fault
  | latin1 => .ok (narrowText bytes)

end Encoding

/-- The stretch of a fault in words: one item with its form, or a span of positions. -/
def faultStretch (item shown : String) (first last : Nat) : String :=
  if first == last then s!"{item} {shown} in position {first}"
  else s!"{item}s in position {first}-{last}"

/-- The wording of a text that cannot be written. -/
def EncodeFault.message (fault : EncodeFault) : String :=
  let shown := "'" ++ String.ofList (escapeByNumber fault.char) ++ "'"
  let stretch := faultStretch "character" shown fault.first fault.last
  s!"'{fault.encoding.name}' codec can't encode {stretch}: " ++
    s!"ordinal not in range({fault.encoding.range})"

/-- The wording of one reason. -/
def DecodeReason.message : DecodeReason → String
  | badStart => "invalid start byte"
  | badContinuation => "invalid continuation byte"
  | truncated => "unexpected end of data"
  | outOfRange => "ordinal not in range(128)"

/-- The wording of bytes that are no text. -/
def DecodeFault.message (fault : DecodeFault) : String :=
  let shown := "0x" ++ String.ofList (hexDigits 2 fault.byte.toNat)
  let stretch := faultStretch "byte" shown fault.first fault.last
  s!"'{fault.encoding.name}' codec can't decode {stretch}: {fault.reason.message}"

end Stencil
