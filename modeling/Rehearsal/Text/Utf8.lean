/-
  Rehearsal.Text.Utf8
  ──────────────────────────────────────
  **Text as bytes.**

    • `utf8` — the bytes of a text,
    • `ofUtf8?` — the text of a byte list, if it is well formed,
    • `ofUtf8Lossy` — the text with `U+FFFD` for every ill-formed part.
-/
import Rehearsal.Text.Chars

namespace Rehearsal

/-- Raw output and file contents. -/
abbrev Bytes := List UInt8

namespace Text

/-- The bytes of a text. -/
def utf8 (t : Text) : Bytes := t.flatMap String.utf8EncodeChar

/-- The number of continuation bytes a first byte asks for, and the range the
first of them must lie in; `none` if no character starts with the byte. -/
def continuation? (b : UInt8) : Option (Nat × Nat × Nat) :=
  let n := b.toNat
  if n < 0x80 then some (0, 0x80, 0xBF)
  else if n < 0xC2 then none
  else if n < 0xE0 then some (1, 0x80, 0xBF)
  else if n == 0xE0 then some (2, 0xA0, 0xBF)
  else if n == 0xED then some (2, 0x80, 0x9F)
  else if n < 0xF0 then some (2, 0x80, 0xBF)
  else if n == 0xF0 then some (3, 0x90, 0xBF)
  else if n < 0xF4 then some (3, 0x80, 0xBF)
  else if n == 0xF4 then some (3, 0x80, 0x8F)
  else none

/-- The payload of a first byte that is followed by `count` bytes. -/
def leadBits (b : UInt8) (count : Nat) : Nat :=
  match count with
  | 0 => b.toNat
  | 1 => b.toNat % 0x20
  | 2 => b.toNat % 0x10
  | _ => b.toNat % 0x08

/-- Where a decoder stands: between characters, or inside one with `need`
bytes to come, the next of them in `[lo, hi]`. -/
structure Unfinished where
  value : Nat
  need : Nat
  lo : Nat
  hi : Nat

/-- Decodes on; `ill` is what an ill-formed part stands for. -/
def decodeFrom (ill : Option Char) : Option Unfinished → Bytes → Option Text
  | none, [] => some []
  | some _, [] => ill.map ([·])
  | none, b :: rest => start ill b rest
  | some p, b :: rest =>
      if p.lo ≤ b.toNat ∧ b.toNat ≤ p.hi then
        let value := p.value * 64 + b.toNat % 64
        if p.need ≤ 1 then (decodeFrom ill none rest).map (Char.ofNat value :: ·)
        else decodeFrom ill (some ⟨value, p.need - 1, 0x80, 0xBF⟩) rest
      else match ill with
        | none => none
        | some c => (start ill b rest).map (c :: ·)
where
  /-- A byte between characters. -/
  start (ill : Option Char) (b : UInt8) (rest : Bytes) : Option Text :=
    match continuation? b with
    | none => match ill with
      | none => none
      | some c => (decodeFrom ill none rest).map (c :: ·)
    | some (0, _, _) => (decodeFrom ill none rest).map (Char.ofNat b.toNat :: ·)
    | some (count + 1, lo, hi) =>
        decodeFrom ill (some ⟨leadBits b (count + 1), count + 1, lo, hi⟩) rest

/-- The text that the bytes are the UTF-8 form of. -/
def ofUtf8? (bytes : Bytes) : Option Text := decodeFrom none none bytes

/-- The text with one `U+FFFD` for every ill-formed part. -/
def ofUtf8Lossy (bytes : Bytes) : Text := (decodeFrom (some '\uFFFD') none bytes).getD []

end Text

end Rehearsal
