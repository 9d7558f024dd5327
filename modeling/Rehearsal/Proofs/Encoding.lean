/-
  Rehearsal.Proofs.Encoding
  ──────────────────────────────────────
  **Text and bytes, cut at newlines.**

  A text is read back from its bytes, and a newline byte always is a newline of
  the text: no other character has this byte among its bytes, and no character
  that is not finished can go on with it.  So bytes can be decoded line by line.

    • `ofUtf8?_utf8` — the round trip of a text,
    • `ofUtf8?_line` — decoding goes line by line,
    • `newline_mem_utf8` — a newline byte comes from a newline.
-/
import Rehearsal.Text.Utf8

namespace Rehearsal.Text

variable {rest : Bytes}

/-! ## §1. First bytes. -/

theorem continuation?_one {b : UInt8} (h : b.toNat < 0x80) :
    continuation? b = some (0, 0x80, 0xBF) := by
  unfold continuation?
  rw [if_pos h]

theorem continuation?_two {b : UInt8} (h : 0xC2 ≤ b.toNat) (h' : b.toNat < 0xE0) :
    continuation? b = some (1, 0x80, 0xBF) := by
  unfold continuation?
  rw [if_neg (by omega), if_neg (by omega), if_pos h']

theorem continuation?_three {b : UInt8} (h : 0xE0 ≤ b.toNat) (h' : b.toNat < 0xF0) :
    continuation? b = some (2, if b.toNat = 0xE0 then 0xA0 else 0x80,
      if b.toNat = 0xED then 0x9F else 0xBF) := by
  unfold continuation?
  rw [if_neg (by omega), if_neg (by omega), if_neg (by omega)]
  by_cases hE0 : b.toNat = 0xE0
  · rw [hE0]
    rfl
  by_cases hED : b.toNat = 0xED
  · rw [hED]
    rfl
  simp only [beq_iff_eq, if_neg hE0, if_neg hED, if_pos h']

theorem continuation?_four {b : UInt8} (h : 0xF0 ≤ b.toNat) (h' : b.toNat < 0xF5) :
    continuation? b = some (3, if b.toNat = 0xF0 then 0x90 else 0x80,
      if b.toNat = 0xF4 then 0x8F else 0xBF) := by
  have hcases : b.toNat = 0xF0 ∨ b.toNat = 0xF1 ∨ b.toNat = 0xF2 ∨ b.toNat = 0xF3
      ∨ b.toNat = 0xF4 := by omega
  unfold continuation?
  rcases hcases with hb | hb | hb | hb | hb <;> rw [hb] <;> rfl

/-! ## §2. Reading one character. -/

theorem decode_one {b : UInt8} (h : b.toNat < 0x80) :
    decodeFrom none none (b :: rest)
      = (decodeFrom none none rest).map (Char.ofNat b.toNat :: ·) := by
  rw [decodeFrom, decodeFrom.start, continuation?_one h]

theorem decode_two {a b : UInt8} {lo hi : Nat} (h : continuation? a = some (1, lo, hi))
    (hb : lo ≤ b.toNat ∧ b.toNat ≤ hi) :
    decodeFrom none none (a :: b :: rest) = (decodeFrom none none rest).map
      (Char.ofNat (a.toNat % 0x20 * 64 + b.toNat % 64) :: ·) := by
  rw [decodeFrom, decodeFrom.start, h]
  simp [decodeFrom, hb, leadBits]

theorem decode_three {a b c : UInt8} {lo hi : Nat} (h : continuation? a = some (2, lo, hi))
    (hb : lo ≤ b.toNat ∧ b.toNat ≤ hi) (hc : 0x80 ≤ c.toNat ∧ c.toNat ≤ 0xBF) :
    decodeFrom none none (a :: b :: c :: rest) = (decodeFrom none none rest).map
      (Char.ofNat ((a.toNat % 0x10 * 64 + b.toNat % 64) * 64 + c.toNat % 64) :: ·) := by
  rw [decodeFrom, decodeFrom.start, h]
  simp [decodeFrom, hb, hc, leadBits]

theorem decode_four {a b c d : UInt8} {lo hi : Nat} (h : continuation? a = some (3, lo, hi))
    (hb : lo ≤ b.toNat ∧ b.toNat ≤ hi) (hc : 0x80 ≤ c.toNat ∧ c.toNat ≤ 0xBF)
    (hd : 0x80 ≤ d.toNat ∧ d.toNat ≤ 0xBF) :
    decodeFrom none none (a :: b :: c :: d :: rest) = (decodeFrom none none rest).map
      (Char.ofNat (((a.toNat % 0x08 * 64 + b.toNat % 64) * 64 + c.toNat % 64) * 64
        + d.toNat % 64) :: ·) := by
  rw [decodeFrom, decodeFrom.start, h]
  simp [decodeFrom, hb, hc, hd, leadBits]

theorem toNat_byte {n : Nat} (h : n < 256) : (UInt8.ofNat n).toNat = n := by
  rw [UInt8.toNat_ofNat']
  exact Nat.mod_eq_of_lt h

/-- A byte that continues a character carries six bits. -/
theorem toNat_tail (n : Nat) : (UInt8.ofNat (n % 0x40 + 0x80)).toNat = n % 0x40 + 0x80 :=
  toNat_byte (by omega)

/-- **A character is read back from its bytes.** -/
theorem decode_char (c : Char) :
    decodeFrom none none (String.utf8EncodeChar c ++ rest)
      = (decodeFrom none none rest).map (c :: ·) := by
  obtain ⟨v, hv⟩ : ∃ v, c.val.toNat = v := ⟨_, rfl⟩
  have hc : Char.ofNat v = c := by
    rw [← hv]
    exact Char.ofNat_toNat c
  have hvalid : v < 0xD800 ∨ 0xDFFF < v ∧ v < 0x110000 := hv ▸ c.valid
  unfold String.utf8EncodeChar
  simp only [hv]
  -- One to four bytes, by the size of the character.
  by_cases h1 : v ≤ 0x7F
  · have ha : (UInt8.ofNat v).toNat = v := toNat_byte (by omega)
    rw [if_pos h1]
    show decodeFrom none none (_ :: rest) = _
    rw [decode_one (by omega), ha, hc]
  rw [if_neg h1]
  have hlast := toNat_tail v
  by_cases h2 : v ≤ 0x7FF
  · have ha : (UInt8.ofNat (v / 64 % 0x20 + 0xC0)).toNat = v / 64 % 0x20 + 0xC0 :=
      toNat_byte (by omega)
    have hvalue : (v / 64 % 0x20 + 0xC0) % 0x20 * 64 + (v % 0x40 + 0x80) % 64 = v := by omega
    rw [if_pos h2]
    show decodeFrom none none (_ :: _ :: rest) = _
    rw [decode_two (continuation?_two (by omega) (by omega)) (by omega), ha, hlast, hvalue, hc]
  rw [if_neg h2]
  have hthird := toNat_tail (v / 64)
  by_cases h3 : v ≤ 0xFFFF
  · have ha : (UInt8.ofNat (v / 4096 % 0x10 + 0xE0)).toNat = v / 4096 % 0x10 + 0xE0 :=
      toNat_byte (by omega)
    have hvalue : ((v / 4096 % 0x10 + 0xE0) % 0x10 * 64 + (v / 64 % 0x40 + 0x80) % 64) * 64
        + (v % 0x40 + 0x80) % 64 = v := by omega
    rw [if_pos h3]
    show decodeFrom none none (_ :: _ :: _ :: rest) = _
    rw [decode_three (continuation?_three (by omega) (by omega)) ?_ (by omega), ha, hthird, hlast,
      hvalue, hc]
    constructor
    · split <;> omega
    · split <;> omega
  rw [if_neg h3]
  have hsecond := toNat_tail (v / 4096)
  have ha : (UInt8.ofNat (v / 262144 % 0x08 + 0xF0)).toNat = v / 262144 % 0x08 + 0xF0 :=
    toNat_byte (by omega)
  have hvalue : (((v / 262144 % 0x08 + 0xF0) % 0x08 * 64 + (v / 4096 % 0x40 + 0x80) % 64) * 64
      + (v / 64 % 0x40 + 0x80) % 64) * 64 + (v % 0x40 + 0x80) % 64 = v := by omega
  show decodeFrom none none (_ :: _ :: _ :: _ :: rest) = _
  rw [decode_four (continuation?_four (by omega) (by omega)) ?_ (by omega) (by omega), ha, hsecond,
    hthird, hlast, hvalue, hc]
  constructor
  · split <;> omega
  · split <;> omega

/-- A text in front of other bytes is read back. -/
theorem decode_utf8_append (t : Text) :
    decodeFrom none none (utf8 t ++ rest) = (decodeFrom none none rest).map (t ++ ·) := by
  induction t with
  | nil =>
    cases h : decodeFrom none none rest with
    | none => exact h
    | some text => exact h
  | cons c t ih =>
    show decodeFrom none none (String.utf8EncodeChar c ++ utf8 t ++ rest) = _
    rw [List.append_assoc, decode_char, ih, Option.map_map]
    rfl

/-- **The round trip:** a text is read back from its bytes. -/
theorem ofUtf8?_utf8 (t : Text) : ofUtf8? (utf8 t) = some t := by
  have h : decodeFrom none none (utf8 t ++ []) = _ := decode_utf8_append t
  rw [List.append_nil] at h
  rw [ofUtf8?, h, decodeFrom, Option.map_some, List.append_nil]

theorem ofUtf8?_nil : ofUtf8? [] = some [] := ofUtf8?_utf8 []

/-! ## §3. Newlines. -/

/-- Every byte of a character beyond ASCII is beyond ASCII. -/
theorem le_of_mem_char {c : Char} {b : UInt8} (h : 0x7F < c.val.toNat)
    (hb : b ∈ String.utf8EncodeChar c) : 0x80 ≤ b.toNat := by
  unfold String.utf8EncodeChar at hb
  simp only [if_neg (Nat.not_le.mpr h)] at hb
  split at hb
  · simp only [List.mem_cons, List.not_mem_nil, or_false] at hb
    rcases hb with rfl | rfl <;> rw [toNat_byte (by omega)] <;> omega
  split at hb
  · simp only [List.mem_cons, List.not_mem_nil, or_false] at hb
    rcases hb with rfl | rfl | rfl <;> rw [toNat_byte (by omega)] <;> omega
  · simp only [List.mem_cons, List.not_mem_nil, or_false] at hb
    rcases hb with rfl | rfl | rfl | rfl <;> rw [toNat_byte (by omega)] <;> omega

/-- No other character has the byte of a newline. -/
theorem newline_mem_char {c : Char} (h : 10 ∈ String.utf8EncodeChar c) : c = '\n' := by
  by_cases hascii : c.val.toNat ≤ 0x7F
  · unfold String.utf8EncodeChar at h
    rw [if_pos hascii] at h
    have hbyte := congrArg UInt8.toNat (List.mem_singleton.mp h)
    rw [toNat_byte (by omega)] at hbyte
    exact Char.ext (UInt32.toNat_inj.mp hbyte.symm)
  · have hten : 0x80 ≤ (10 : UInt8).toNat := le_of_mem_char (by omega) h
    exact absurd hten (by decide)

/-- **A newline byte comes from a newline.** -/
theorem newline_mem_utf8 {t : Text} (h : 10 ∈ utf8 t) : '\n' ∈ t := by
  obtain ⟨c, hc, hmem⟩ := List.mem_flatMap.mp h
  rw [← newline_mem_char hmem]
  exact hc

theorem continuation?_lo {b : UInt8} {n lo hi : Nat} (h : continuation? b = some (n, lo, hi)) :
    0x80 ≤ lo := by
  grind [continuation?]

/-- Decoding with a newline on the way: a character that is not finished cannot
go on there. -/
theorem decode_newline (before after : Bytes) (p : Option Unfinished)
    (hp : ∀ u, p = some u → 0x80 ≤ u.lo) :
    decodeFrom none p (before ++ 10 :: after) = (decodeFrom none p before).bind fun a =>
      (decodeFrom none none after).map fun b => a ++ '\n' :: b := by
  induction before generalizing p with
  | nil =>
    cases p with
    | none =>
      rw [List.nil_append, decode_one (by decide), decodeFrom]
      rfl
    | some u =>
      have hlo := hp u rfl
      show decodeFrom none (some u) (10 :: after) = _
      have hten : ¬ (u.lo ≤ (10 : UInt8).toNat ∧ (10 : UInt8).toNat ≤ u.hi) := by
        have : (10 : UInt8).toNat = 10 := rfl
        omega
      rw [decodeFrom, decodeFrom, if_neg hten]
      rfl
  | cons b before ih =>
    rw [List.cons_append]
    cases p with
    | none =>
      rw [decodeFrom, decodeFrom, decodeFrom.start, decodeFrom.start]
      cases h : continuation? b with
      | none => rfl
      | some found =>
        obtain ⟨count, lo, hi⟩ := found
        cases count with
        | zero =>
          simp only [ih none (by simp)]
          cases decodeFrom none none before <;> cases decodeFrom none none after <;> rfl
        | succ count =>
          refine ih _ fun u hu => ?_
          rw [← Option.some.inj hu]
          exact continuation?_lo h
    | some u =>
      rw [decodeFrom, decodeFrom]
      by_cases hrange : u.lo ≤ b.toNat ∧ b.toNat ≤ u.hi
      · rw [if_pos hrange, if_pos hrange]
        by_cases hneed : u.need ≤ 1
        · simp only [if_pos hneed, ih none (by simp)]
          cases decodeFrom none none before <;> cases decodeFrom none none after <;> rfl
        · simp only [if_neg hneed]
          refine ih _ fun u' hu => ?_
          obtain rfl := Option.some.inj hu
          exact Nat.le_refl _
      · simp only [if_neg hrange, Option.bind_none]

/-- **Decoding goes line by line.** -/
theorem ofUtf8?_line (line rest : Bytes) :
    ofUtf8? (line ++ 10 :: rest)
      = (ofUtf8? line).bind fun a => (ofUtf8? rest).map fun b => a ++ '\n' :: b :=
  decode_newline line rest none (by simp)

end Rehearsal.Text
