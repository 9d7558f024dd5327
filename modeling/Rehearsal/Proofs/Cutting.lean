/-
  Rehearsal.Proofs.Cutting
  ──────────────────────────────────────
  **Texts and their pieces.**

  A text is its lines, each with its newline, and the rest behind them; the pieces
  of a text are these lines and this rest.  So a text can be taken apart line by
  line, and what is put behind it only changes the rest.

    • `eq_terminated_append` — a text as its lines and the rest,
    • `pieces_rows`, `pieces_unlines` — and back,
    • `lines_unlines` — rows that are joined and cut into lines,
    • `dropEndWhile_append_replicate` — what is cut off an end.
-/
import Rehearsal.Text.Lines

namespace Rehearsal.Text

/-! ## §1. Ends. -/

theorem dropEndWhile_snoc (p : Char → Bool) (t : Text) (c : Char) :
    dropEndWhile p (t ++ [c]) = if p c then dropEndWhile p t else t ++ [c] := by
  unfold dropEndWhile
  rw [List.reverse_append, List.reverse_singleton, List.singleton_append, List.dropWhile_cons]
  split
  · rfl
  · rw [List.reverse_cons, List.reverse_reverse]

/-- What is cut off a text with another one behind it. -/
theorem dropEndWhile_append (p : Char → Bool) (a b : Text) :
    dropEndWhile p (a ++ b)
      = if dropEndWhile p b = [] then dropEndWhile p a else a ++ dropEndWhile p b := by
  unfold dropEndWhile
  rw [List.reverse_append, List.dropWhile_append]
  simp only [List.isEmpty_iff, List.reverse_eq_nil_iff]
  split
  · rfl
  · rw [List.reverse_append, List.reverse_reverse]

theorem dropEndWhile_congr {p q : Char → Bool} {t : Text} (h : ∀ c ∈ t, p c = q c) :
    dropEndWhile p t = dropEndWhile q t := by
  have hreverse : ∀ l : Text, (∀ c ∈ l, p c = q c) → l.dropWhile p = l.dropWhile q := by
    intro l hl
    induction l with
    | nil => rfl
    | cons c l ih =>
      rw [List.dropWhile_cons, List.dropWhile_cons, hl c (List.mem_cons_self ..),
        ih fun d hd => hl d (List.mem_cons_of_mem c hd)]
  unfold dropEndWhile
  rw [hreverse t.reverse fun c hc => h c (List.mem_reverse.mp hc)]

theorem dropEndWhile_append_replicate {p : Char → Bool} {c : Char} (hc : p c = true) (t : Text)
    (n : Nat) : dropEndWhile p (t ++ List.replicate n c) = dropEndWhile p t := by
  induction n with
  | zero => rw [List.replicate_zero, List.append_nil]
  | succ n ih => rw [List.replicate_succ', ← List.append_assoc, dropEndWhile_snoc, if_pos hc, ih]

/-- Nothing is dropped from a text with another end. -/
theorem dropEndWhile_eq_self {p : Char → Bool} {t : Text} (h : ∀ c, t.getLast? = some c → p c = false) :
    dropEndWhile p t = t := by
  rcases List.eq_nil_or_concat t with rfl | ⟨start, c, rfl⟩
  · rfl
  · rw [List.concat_eq_append] at h ⊢
    rw [dropEndWhile_snoc, h c List.getLast?_concat]
    rfl

/-- What is left stands at the start. -/
theorem dropEndWhile_isPrefix (p : Char → Bool) (t : Text) : dropEndWhile p t <+: t := by
  have h : t.reverse.dropWhile p <:+ t.reverse := List.dropWhile_suffix p
  rwa [← List.reverse_prefix, List.reverse_reverse] at h

/-! ## §2. Lines and the rest. -/

/-- The lines of a text that end in a newline, without it. -/
def terminated (t : Text) : List Text := (pieces t).dropLast

/-- What stands behind the last newline of a text. -/
def unterminated (t : Text) : Text := (pieces t).getLast (pieces_ne_nil t)

theorem pieces_eq (t : Text) : pieces t = terminated t ++ [unterminated t] :=
  (List.dropLast_concat_getLast _).symm

theorem pieces_newline (t : Text) : pieces ('\n' :: t) = [] :: pieces t := rfl

theorem pieces_cons {c : Char} (hc : c ≠ '\n') {t p : Text} {ps : List Text}
    (h : pieces t = p :: ps) : pieces (c :: t) = (c :: p) :: ps := by
  unfold pieces
  rw [if_neg hc, h]

theorem newline_not_mem_pieces (t : Text) : ∀ p ∈ pieces t, '\n' ∉ p := by
  induction t with
  | nil => simp [pieces]
  | cons c t ih =>
    by_cases hc : c = '\n'
    · subst hc
      rw [pieces_newline]
      exact List.forall_mem_cons.mpr ⟨List.not_mem_nil, ih⟩
    · cases hp : pieces t with
      | nil => exact absurd hp (pieces_ne_nil t)
      | cons p ps =>
        rw [hp] at ih
        rw [pieces_cons hc hp]
        obtain ⟨hfirst, hothers⟩ := List.forall_mem_cons.mp ih
        refine List.forall_mem_cons.mpr ⟨?_, hothers⟩
        intro hmem
        rcases List.mem_cons.mp hmem with h | h
        · exact hc h.symm
        · exact hfirst h

theorem newline_not_mem_terminated {t line : Text} (h : line ∈ terminated t) : '\n' ∉ line :=
  newline_not_mem_pieces t line (List.dropLast_subset _ h)

theorem newline_not_mem_unterminated (t : Text) : '\n' ∉ unterminated t :=
  newline_not_mem_pieces t _ (List.getLast_mem _)

theorem unlines_concat (lines : List Text) (last : Text) :
    unlines (lines ++ [last]) = lines.flatMap (· ++ ['\n']) ++ last := by
  induction lines with
  | nil => rfl
  | cons line lines ih =>
    have hcons : unlines (line :: (lines ++ [last])) = line ++ '\n' :: unlines (lines ++ [last]) := by
      cases h : lines ++ [last] with
      | nil => exact absurd h (by simp)
      | cons p ps => rfl
    rw [List.cons_append, hcons, ih]
    simp

/-- A text is its lines, each with its newline, and the rest. -/
theorem eq_terminated_append (t : Text) :
    t = (terminated t).flatMap (· ++ ['\n']) ++ unterminated t := by
  rw [← unlines_concat, ← pieces_eq, unlines_pieces]

/-- Every piece is a part of its text. -/
theorem mem_of_mem_pieces {t p : Text} {c : Char} (hc : c ∈ p) (hp : p ∈ pieces t) : c ∈ t := by
  rw [pieces_eq, List.mem_append, List.mem_singleton] at hp
  rw [eq_terminated_append t, List.mem_append]
  rcases hp with hp | rfl
  · exact .inl (List.mem_flatMap.mpr ⟨p, hp, List.mem_append_left _ hc⟩)
  · exact .inr hc

/-- Every line is a part of a piece. -/
theorem exists_piece {t line : Text} (h : line ∈ lines t) : ∃ p ∈ pieces t, line ⊆ p := by
  have hpieces : ∀ ps : List Text, ∀ line ∈ linesOfPieces ps, ∃ p ∈ ps, line ⊆ p := by
    intro ps
    induction ps with
    | nil => exact fun line h => absurd h List.not_mem_nil
    | cons p ps ih =>
      intro line h
      cases ps with
      | nil =>
        unfold linesOfPieces at h
        split at h
        · exact absurd h List.not_mem_nil
        · exact ⟨p, List.mem_singleton.mpr rfl, List.mem_singleton.mp h ▸ List.Subset.refl _⟩
      | cons q ps =>
        rcases List.mem_cons.mp h with rfl | h
        · refine ⟨p, List.mem_cons_self .., ?_⟩
          unfold dropCarriageReturn
          split
          · exact List.dropLast_subset p
          · exact List.Subset.refl p
        · obtain ⟨p', hp', hsub⟩ := ih line h
          exact ⟨p', List.mem_cons_of_mem p hp', hsub⟩
  exact hpieces (pieces t) line h

/-- Every line is a part of its text. -/
theorem mem_of_mem_lines {t line : Text} {c : Char} (hc : c ∈ line) (hline : line ∈ lines t) :
    c ∈ t := by
  obtain ⟨p, hp, hsub⟩ := exists_piece hline
  exact mem_of_mem_pieces (hsub hc) hp

theorem newline_not_mem_lines {t line : Text} (h : line ∈ lines t) : '\n' ∉ line := by
  obtain ⟨p, hp, hsub⟩ := exists_piece h
  exact fun hmem => newline_not_mem_pieces t p hp (hsub hmem)

/-! ## §3. Putting texts behind each other. -/

/-- A newline cuts for good. -/
theorem pieces_append_newline (a b : Text) : pieces (a ++ '\n' :: b) = pieces a ++ pieces b := by
  induction a with
  | nil => rfl
  | cons c a ih =>
    rw [List.cons_append]
    by_cases hc : c = '\n'
    · subst hc
      rw [pieces_newline, pieces_newline, ih]
      rfl
    · cases hp : pieces a with
      | nil => exact absurd hp (pieces_ne_nil a)
      | cons p ps =>
        rw [hp] at ih
        rw [pieces_cons hc ih, pieces_cons hc hp]
        rfl

/-- Without a newline there is nothing to cut. -/
theorem pieces_of_flat {t : Text} (h : '\n' ∉ t) : pieces t = [t] := by
  induction t with
  | nil => rfl
  | cons c t ih =>
    refine pieces_cons ?_ (ih fun ht => h (List.mem_cons_of_mem c ht))
    rintro rfl
    exact h (List.mem_cons_self ..)

/-- Lines and a rest are the pieces of the text that they make up. -/
theorem pieces_rows {lines : List Text} {last : Text} (h : ∀ line ∈ lines, '\n' ∉ line)
    (hlast : '\n' ∉ last) : pieces (lines.flatMap (· ++ ['\n']) ++ last) = lines ++ [last] := by
  induction lines with
  | nil => exact pieces_of_flat hlast
  | cons line lines ih =>
    obtain ⟨hline, hlines⟩ := List.forall_mem_cons.mp h
    have hcons : (line :: lines).flatMap (· ++ ['\n']) ++ last
        = line ++ '\n' :: (lines.flatMap (· ++ ['\n']) ++ last) := by simp
    rw [hcons, pieces_append_newline, pieces_of_flat hline, ih hlines]
    rfl

/-- Joining loses nothing, if there is something to join. -/
theorem pieces_unlines {rows : List Text} (hne : rows ≠ []) (h : ∀ row ∈ rows, '\n' ∉ row) :
    pieces (unlines rows) = rows := by
  obtain ⟨front, last, rfl⟩ := (List.eq_nil_or_concat rows).resolve_left hne
  rw [List.concat_eq_append] at h ⊢
  obtain ⟨hfront, hlast⟩ := List.forall_mem_append.mp h
  rw [unlines_concat, pieces_rows hfront (hlast last (List.mem_singleton.mpr rfl))]

/-- What comes without a newline belongs to the rest. -/
theorem pieces_append_flat (t : Text) {s : Text} (h : '\n' ∉ s) :
    pieces (t ++ s) = terminated t ++ [unterminated t ++ s] := by
  have hlast : '\n' ∉ unterminated t ++ s := by
    rw [List.mem_append]
    rintro (hmem | hmem)
    · exact newline_not_mem_unterminated t hmem
    · exact h hmem
  have hrows := pieces_rows (fun line => newline_not_mem_terminated (t := t)) hlast
  rwa [← List.append_assoc, ← eq_terminated_append] at hrows

/-! ## §4. Rows, joined and cut again. -/

/-- Something on one line that does not end in a carriage return. -/
def IsRow (t : Text) : Prop := '\n' ∉ t ∧ t.getLast? ≠ some '\r'

instance (t : Text) : Decidable (IsRow t) :=
  inferInstanceAs (Decidable ('\n' ∉ t ∧ t.getLast? ≠ some '\r'))

/-- All rows but a blank one at the end. -/
def heard (rows : List Text) : List Text :=
  if rows.getLast? = some [] then rows.dropLast else rows

theorem heard_eq_self {rows : List Text} (h : rows.getLast? ≠ some []) : heard rows = rows :=
  if_neg h

/-- One row is lost where one is blank at the end. -/
theorem heard_ne_self {rows : List Text} (h : rows.getLast? = some []) : heard rows ≠ rows := by
  intro heq
  have hlength := congrArg List.length heq
  rw [heard, if_pos h, List.length_dropLast] at hlength
  have hne : rows ≠ [] := by
    rintro rfl
    cases h
  have hpos := List.length_pos_iff.mpr hne
  omega

/-- Only the last piece is no line if it is empty. -/
theorem linesOfPieces_rows {rows : List Text} (h : ∀ row ∈ rows, IsRow row) :
    linesOfPieces rows = heard rows := by
  induction rows with
  | nil => rfl
  | cons p ps ih =>
    obtain ⟨hp, hps⟩ := List.forall_mem_cons.mp h
    cases ps with
    | nil =>
      show (if p = [] then [] else [p]) = if some p = some [] then [] else [p]
      simp only [Option.some.injEq]
    | cons q ps =>
      have hdrop : dropCarriageReturn p = p := if_neg hp.2
      show dropCarriageReturn p :: linesOfPieces (q :: ps) = _
      rw [hdrop, ih hps]
      unfold heard
      rw [List.getLast?_cons_cons, List.dropLast_cons_cons]
      split <;> rfl

/-- **Rows that are joined and cut again** come back but for a blank one at the
end. -/
theorem lines_unlines {rows : List Text} (h : ∀ row ∈ rows, IsRow row) :
    lines (unlines rows) = heard rows := by
  by_cases hne : rows = []
  · rw [hne]
    rfl
  · unfold lines
    rw [pieces_unlines hne fun row hrow => (h row hrow).1, linesOfPieces_rows h]

end Rehearsal.Text
