/-
  Rehearsal.Proofs.Quoting
  ──────────────────────────────────────
  **A literal is read back exactly, whatever follows it.**

  Every character is written so that the reader knows where it ends: an escape letter
  stands for itself, and a code is closed by `\&`, so that no digit behind it is taken
  into the number.  The closing quote is the first one that no backslash stands in
  front of.  So a literal says where it ends, and no literal is the start of another.

    • `readNumber_digits` — a number ends where its digits end,
    • `readBody_quoteChar` — one character is read back,
    • `readLiteral_quote` — a literal is read back,
    • `isControl_of_mem_quote` — literals stay on one line.
-/
import Rehearsal.Proofs.Filling
import Rehearsal.Wire

namespace Rehearsal

namespace Text

variable {rest : Text}

/-! ## §1. Numbers. -/

/-- A number ends where its digits end. -/
theorem readNumber_digits {digits : Text} (hdigits : ∀ c ∈ digits, c.isDigit = true)
    (hrest : ∀ c, rest.head? = some c → c.isDigit = false) (acc : Nat) :
    readNumber acc (digits ++ rest) = (Nat.ofDigitChars 10 digits acc, rest) := by
  induction digits generalizing acc with
  | nil =>
    cases rest with
    | nil => rfl
    | cons c rest =>
      rw [List.nil_append, readNumber, if_neg (by simp [hrest c rfl])]
      rfl
  | cons c digits ih =>
    obtain ⟨hc, hdigits⟩ := List.forall_mem_cons.mp hdigits
    rw [List.cons_append, readNumber, if_pos hc, ih hdigits, Nat.ofDigitChars_cons, Nat.mul_comm]

theorem isDigit_of_mem_ofNat {n : Nat} {c : Char} (h : c ∈ ofNat n) : c.isDigit = true :=
  Nat.isDigit_of_mem_toDigits (by decide) (by decide) h

/-- **A number is read back.** -/
theorem readNumber_ofNat (n : Nat) (hrest : ∀ c, rest.head? = some c → c.isDigit = false) :
    readNumber 0 (ofNat n ++ rest) = (n, rest) := by
  rw [readNumber_digits (fun _ => isDigit_of_mem_ofNat) hrest]
  exact congrArg (·, rest) Nat.ofDigitChars_ten_toDigits

/-! ## §2. One character. -/

/-- **How a character is written:** by a letter, by its code, or as it is. -/
theorem quoteChar_cases (c : Char) :
    (∃ letter, (letter, c) ∈ escapes ∧ quoteChar c = ['\\', letter])
      ∨ quoteChar c = '\\' :: (ofNat c.toNat ++ ['\\', '&'])
      ∨ c ≠ '"' ∧ c ≠ '\\' ∧ isControl c = false ∧ quoteChar c = [c] := by
  -- The quote and the backslash come first, so the last case knows that it is neither.
  unfold quoteChar
  split
  next h => exact .inl ⟨'"', by rw [h]; decide, rfl⟩
  next hquote =>
  split
  next h => exact .inl ⟨'\\', by rw [h]; decide, rfl⟩
  next hslash =>
  split
  next h => exact .inl ⟨'n', by rw [h]; decide, rfl⟩
  split
  next h => exact .inl ⟨'r', by rw [h]; decide, rfl⟩
  split
  next h => exact .inl ⟨'t', by rw [h]; decide, rfl⟩
  split
  next h => exact .inr (.inl rfl)
  next h => exact .inr (.inr ⟨hquote, hslash, Bool.not_eq_true _ ▸ h, rfl⟩)

theorem readBody_letter {letter c : Char} (h : (letter, c) ∈ escapes) (rest : Text) :
    readBody ('\\' :: letter :: rest) = readBehind c (readBody rest) := by
  simp only [escapes, List.mem_cons, Prod.mk.injEq, List.not_mem_nil, or_false] at h
  rcases h with ⟨rfl, rfl⟩ | ⟨rfl, rfl⟩ | ⟨rfl, rfl⟩ | ⟨rfl, rfl⟩ | ⟨rfl, rfl⟩ <;>
    rw [readBody] <;> rfl

theorem readBody_plain {c : Char} (hquote : c ≠ '"') (hslash : c ≠ '\\') (rest : Text) :
    readBody (c :: rest) = readBehind c (readBody rest) :=
  readBody.eq_4 c rest hquote fun _ _ h _ => hslash h

theorem readBody_separator (rest : Text) : readBody ('\\' :: '&' :: rest) = readBody rest := by
  rw [readBody, if_neg (by decide), if_pos rfl]

theorem readBody_code (n : Nat) (rest : Text) :
    readBody ('\\' :: (ofNat n ++ '\\' :: '&' :: rest))
      = readBehind (Char.ofNat n) (readBody rest) := by
  -- The separator ends the digits.
  have hnumber : readNumber 0 (ofNat n ++ '\\' :: '&' :: rest) = (n, '\\' :: '&' :: rest) := by
    refine readNumber_ofNat n fun c hc => ?_
    cases hc
    rfl
  obtain ⟨d, digits, hdigits⟩ : ∃ d digits, ofNat n = d :: digits :=
    List.exists_cons_of_ne_nil Nat.toDigits_ne_nil
  have hd : d.isDigit = true := isDigit_of_mem_ofNat (hdigits ▸ List.mem_cons_self ..)
  rw [hdigits, List.cons_append] at hnumber ⊢
  rw [readBody, if_pos hd, hnumber]
  show readBehind (Char.ofNat n) (readBody _) = _
  rw [readBody_separator]

/-- **A character is read back.** -/
theorem readBody_quoteChar (c : Char) (rest : Text) :
    readBody (quoteChar c ++ rest) = readBehind c (readBody rest) := by
  rcases quoteChar_cases c with ⟨letter, hletter, h⟩ | h | ⟨hquote, hslash, -, h⟩
  · rw [h]
    exact readBody_letter hletter rest
  · have hcode := readBody_code c.toNat rest
    rw [Char.ofNat_toNat] at hcode
    rw [h, List.cons_append, List.append_assoc]
    exact hcode
  · rw [h]
    exact readBody_plain hquote hslash rest

/-! ## §3. Literals. -/

theorem readBody_quoted (t rest : Text) :
    readBody (t.flatMap quoteChar ++ '"' :: rest) = some (t, rest) := by
  induction t with
  | nil => exact readBody.eq_2 rest
  | cons c t ih =>
    rw [List.flatMap_cons, List.append_assoc, readBody_quoteChar, ih]
    rfl

/-- **A literal is read back,** and what follows it is left. -/
theorem readLiteral_quote (t rest : Text) : readLiteral (quote t ++ rest) = some (t, rest) := by
  show readBody (t.flatMap quoteChar ++ ['"'] ++ rest) = _
  rw [List.append_assoc]
  exact readBody_quoted t rest

/-- **A literal says where it ends.** -/
theorem quote_append_inj {t u rest rest' : Text} (h : quote t ++ rest = quote u ++ rest') :
    t = u ∧ rest = rest' := by
  have hread := readLiteral_quote t rest
  rw [h, readLiteral_quote, Option.some.injEq, Prod.mk.injEq] at hread
  exact ⟨hread.1.symm, hread.2.symm⟩

theorem eq_of_quote_prefix {t u : Text} (h : quote t <+: quote u) : t = u := by
  obtain ⟨rest, hrest⟩ := h
  exact (quote_append_inj (hrest.trans (List.append_nil _).symm)).1

/-! ## §4. Control characters. -/

theorem isControl_of_isDigit {c : Char} (h : c.isDigit = true) : isControl c = false := by
  have hcode : 48 ≤ c.toNat ∧ c.toNat ≤ 57 := by
    simpa [Char.isDigit, UInt32.le_iff_toNat_le] using h
  unfold isControl
  rw [Bool.or_eq_false_iff, Bool.and_eq_false_iff]
  refine ⟨decide_eq_false (by omega), .inl (decide_eq_false (by omega))⟩

theorem isControl_of_mem_quoteChar {c d : Char} (h : d ∈ quoteChar c) : isControl d = false := by
  rcases quoteChar_cases c with ⟨letter, hletter, hc⟩ | hc | ⟨-, -, hplain, hc⟩
  · have hletters : ∀ escape ∈ escapes, isControl escape.1 = false := by decide
    rw [hc] at h
    rcases List.mem_cons.mp h with rfl | h
    · rfl
    · exact List.mem_singleton.mp h ▸ hletters _ hletter
  · rw [hc, ← List.cons_append] at h
    rcases List.mem_append.mp h with h | h
    · rcases List.mem_cons.mp h with rfl | h
      · rfl
      · exact isControl_of_isDigit (isDigit_of_mem_ofNat h)
    · rcases List.mem_cons.mp h with rfl | h
      · rfl
      · rw [List.mem_singleton.mp h]
        rfl
  · rw [hc, List.mem_singleton] at h
    exact h ▸ hplain

/-- **A literal has no control character in it.** -/
theorem isControl_of_mem_quote {t : Text} {c : Char} (h : c ∈ quote t) : isControl c = false := by
  rcases List.mem_cons.mp h with rfl | h
  · rfl
  rcases List.mem_append.mp h with h | h
  · obtain ⟨d, -, hd⟩ := List.mem_flatMap.mp h
    exact isControl_of_mem_quoteChar hd
  · rw [List.mem_singleton.mp h]
    rfl

theorem newline_not_mem_quote (t : Text) : '\n' ∉ quote t :=
  fun h => absurd (isControl_of_mem_quote h) (by decide)

end Text

/-! ## §5. Requests. -/

/-- Literals add no line to a call. -/
theorem Comparison.newline_not_mem_call {template : Text} (h : '\n' ∉ template) (t u : Text) :
    '\n' ∉ cleanupCall template t ∧ '\n' ∉ equalsCall template t u := by
  constructor
  · refine Text.not_mem_fill (fun binding hbinding => ?_) h
    rw [List.mem_singleton.mp hbinding]
    exact Text.newline_not_mem_quote t
  · refine Text.not_mem_fill (fun binding hbinding => ?_) h
    rcases List.mem_cons.mp hbinding with rfl | hbinding
    · exact Text.newline_not_mem_quote t
    · rw [List.mem_singleton.mp hbinding]
      exact Text.newline_not_mem_quote u

/-- A request without a newline is one line, without block delimiters. -/
theorem Wire.requestText_flat (s : InterpreterSettings) {request : Text} (h : '\n' ∉ request) :
    requestText s request = request ++ ['\n'] := by
  unfold requestText
  split
  · rw [if_neg (by simpa using h)]
  · rfl

/-- **Quoting is undone by reading a literal,** whatever follows the literal.  A
literal has no control character in it and is not the start of another one, so different
texts have different literals, and what is quoted never makes a request of more than one
line. -/
theorem Text.quote_undone (t : Text) :
    (∀ rest, readLiteral (quote t ++ rest) = some (t, rest))
      ∧ (∀ c ∈ quote t, isControl c = false)
      ∧ (∀ u, quote t <+: quote u → t = u)
      ∧ ∀ (s : InterpreterSettings) (template u : Text), '\n' ∉ template →
          ∀ call ∈ [Comparison.cleanupCall template t, Comparison.equalsCall template t u],
            '\n' ∉ call ∧ Wire.requestText s call = call ++ ['\n'] := by
  refine ⟨readLiteral_quote t, fun c => isControl_of_mem_quote, fun u => eq_of_quote_prefix, ?_⟩
  intro s template u htemplate call hcall
  obtain ⟨hcleanup, hequals⟩ := Comparison.newline_not_mem_call htemplate t u
  have hflat : '\n' ∉ call := by
    rcases List.mem_cons.mp hcall with rfl | hcall
    · exact hcleanup
    · exact List.mem_singleton.mp hcall ▸ hequals
  exact ⟨hflat, Wire.requestText_flat s hflat⟩

/-- A code in front of a digit, a newline and the characters of escapes themselves. -/
theorem Text.quote_undone_sample :
    let t : Text := "\x1b7 \\&\n\""
    let rest : Text := "1\""
    let template : Text := "clean \x7btext\x7d"
    readLiteral (quote t ++ rest) = some (t, rest)
      ∧ quote t <+: quote t
      ∧ '\n' ∉ template
      ∧ '\n' ∉ Comparison.cleanupCall template t := by
  intro t rest template
  obtain ⟨hread, -, -, hrequest⟩ := Text.quote_undone t
  have hflat : '\n' ∉ template := by decide
  exact ⟨hread _, List.prefix_refl _, hflat,
    (hrequest {} template [] hflat _ (List.mem_cons_self ..)).1⟩

end Rehearsal
