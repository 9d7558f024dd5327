/-
  Rehearsal.Proofs.NormalForm
  ──────────────────────────────────────
  **What normal forms say, and what they leave out.**

  Texts are compared by their normal forms, each of which is one text again.  Its
  lines are the pieces of the text without their trailing blanks, blank ones left
  out, and none of them can be taken for a line end.  So the joined text says
  exactly which lines there are: normal forms are equal if and only if these lines
  are, and a text that has nothing else is its own normal form.

    • `lines_normalize` — the lines of a normal form,
    • `sameNormal_iff` — when two texts have the same normal form,
    • `normalize_eq_self_iff` — which texts are normal forms.
-/
import Rehearsal.Proofs.Leniency

namespace Rehearsal.Text

/-! ## §1. Cutting at every newline. -/

/-- A text is cut at every newline, and nowhere else. -/
theorem pieces_eq_splitOn (t : Text) : pieces t = t.splitOn '\n' := by
  induction t with
  | nil => rfl
  | cons c t ih =>
    rw [List.splitOn_cons_eq_if_modifyHead, ← ih]
    by_cases hc : c = '\n'
    · rw [hc, pieces_newline, if_pos (beq_self_eq_true _)]
    · obtain ⟨p, ps, hp⟩ := List.exists_cons_of_ne_nil (pieces_ne_nil t)
      rw [pieces_cons hc hp, hp, if_neg (by simpa using hc)]
      rfl

/-! ## §2. Trimmed lines. -/

/-- A line that is not blank and does not end in a blank. -/
structure IsTrimmed (row : Text) : Prop where
  ne_nil : row ≠ []
  last : ∀ c, row.getLast? = some c → isBlank c = false

/-- Nothing blank is left at the end. -/
theorem trimEnd_last (t : Text) : ∀ c, (trimEnd t).getLast? = some c → isBlank c = false := by
  intro c h
  unfold trimEnd dropEndWhile at h
  rw [List.getLast?_reverse] at h
  have hhead := List.head?_dropWhile_not isBlank t.reverse
  rwa [h] at hhead

theorem IsTrimmed.trimEnd_eq {row : Text} (h : IsTrimmed row) : trimEnd row = row :=
  dropEndWhile_eq_self h.last

/-- A carriage return at the end would be a blank there. -/
theorem IsTrimmed.isRow {row : Text} (h : IsTrimmed row) (hflat : '\n' ∉ row) : IsRow row :=
  ⟨hflat, fun hlast => absurd (h.last '\r' hlast) (by decide)⟩

/-- The lines that a normal form keeps. -/
theorem isTrimmed_of_mem {rows : List Text} {row : Text} (h : row ∈ trimmedLines rows) :
    IsTrimmed row := by
  obtain ⟨hmem, hne⟩ := List.mem_filter.mp h
  obtain ⟨p, -, rfl⟩ := List.mem_map.mp hmem
  exact ⟨of_decide_eq_true hne, trimEnd_last p⟩

theorem newline_not_mem_trimmedLines {rows : List Text} (hrows : ∀ row ∈ rows, '\n' ∉ row) :
    ∀ row ∈ trimmedLines rows, '\n' ∉ row := by
  intro row h hnewline
  obtain ⟨p, hp, rfl⟩ := List.mem_map.mp (List.mem_filter.mp h).1
  exact hrows p hp ((dropEndWhile_isPrefix isBlank p).subset hnewline)

/-- Where nothing is to be trimmed, all lines are kept as they are. -/
theorem trimmedLines_eq_self {rows : List Text} (h : ∀ row ∈ rows, IsTrimmed row) :
    trimmedLines rows = rows := by
  unfold trimmedLines
  rw [List.map_congr_left fun row hrow => (h row hrow).trimEnd_eq, List.map_id',
    List.filter_eq_self.mpr fun row hrow => decide_eq_true (h row hrow).ne_nil]

/-! ## §3. The lines of a normal form. -/

/-- The kept lines can be read off the text that they make up. -/
theorem pieces_normalize {t : Text} (h : normalize t ≠ []) :
    pieces (normalize t) = trimmedLines (pieces t) := by
  have hne : trimmedLines (pieces t) ≠ [] := by
    intro hnone
    rw [normalize_eq, hnone] at h
    exact h rfl
  rw [normalize_eq]
  exact pieces_unlines hne (newline_not_mem_trimmedLines (newline_not_mem_pieces t))

/-- **The lines of a normal form** are the kept lines of the text. -/
theorem lines_normalize (t : Text) : lines (normalize t) = trimmedLines (pieces t) := by
  have hflat := newline_not_mem_trimmedLines (newline_not_mem_pieces t)
  rw [normalize_eq, lines_unlines fun row hrow => (isTrimmed_of_mem hrow).isRow (hflat row hrow)]
  -- A blank line at the end would get lost, but there is none.
  refine heard_eq_self fun hlast => ?_
  exact (isTrimmed_of_mem (List.mem_of_getLast? hlast)).ne_nil rfl

/-- **Normal forms are equal if and only if the kept lines are.** -/
theorem sameNormal_iff (a b : Text) :
    sameNormal a b = true ↔ trimmedLines (pieces a) = trimmedLines (pieces b) := by
  unfold sameNormal
  rw [decide_eq_true_eq]
  constructor
  · intro h
    rw [← lines_normalize, h, lines_normalize]
  · intro h
    rw [normalize_eq, h, ← normalize_eq]

/-! ## §4. Normal texts. -/

/-- A text without blank lines, blanks at the end of a line, and newlines at its own
ends.  The empty text has no line at all. -/
structure IsNormal (t : Text) : Prop where
  rows : t ≠ [] → ∀ row ∈ t.splitOn '\n', IsTrimmed row
  start : t.head? ≠ some '\n'
  finish : t.getLast? ≠ some '\n'

/-- A newline at an end would cut off an empty line. -/
theorem isNormal_of_rows {t : Text} (h : t ≠ [] → ∀ row ∈ pieces t, IsTrimmed row) :
    IsNormal t := by
  refine ⟨pieces_eq_splitOn t ▸ h, fun hstart => ?_, fun hfinish => ?_⟩
  · obtain ⟨rest, rfl⟩ := List.head?_eq_some_iff.mp hstart
    exact (h (by simp) [] (List.mem_cons_self ..)).ne_nil rfl
  · obtain ⟨front, rfl⟩ := List.getLast?_eq_some_iff.mp hfinish
    have hlast : [] ∈ pieces (front ++ ['\n']) := by
      rw [pieces_append_newline]
      exact List.mem_append_right _ (List.mem_singleton.mpr rfl)
    exact (h (by simp) [] hlast).ne_nil rfl

theorem isNormal_normalize (t : Text) : IsNormal (normalize t) := by
  refine isNormal_of_rows fun hne row hrow => ?_
  rw [pieces_normalize hne] at hrow
  exact isTrimmed_of_mem hrow

/-- **A text is its own normal form if and only if it is normal.** -/
theorem normalize_eq_self_iff (t : Text) : normalize t = t ↔ IsNormal t := by
  constructor
  · intro h
    exact h ▸ isNormal_normalize t
  · intro h
    by_cases hne : t = []
    · rw [hne]
      rfl
    · have hrows := h.rows hne
      rw [← pieces_eq_splitOn] at hrows
      rw [normalize_eq, trimmedLines_eq_self hrows, unlines_pieces]

/-- **Normal forms are canonical.**  Two texts have the same normal form if and only
if they have the same lines, where trailing blanks and blank lines do not count.
Every text has the normal form of its normal form, and normal forms are exactly the
texts in which there is nothing that does not count. -/
theorem normalize_canonical (a b : Text) :
    (sameNormal a b = true
        ↔ trimmedLines (a.splitOn '\n') = trimmedLines (b.splitOn '\n'))
      ∧ normalize (normalize a) = normalize a
      ∧ sameNormal a (normalize a) = true
      ∧ IsNormal (normalize a)
      ∧ (normalize a = a ↔ IsNormal a) := by
  have hidempotent : normalize (normalize a) = normalize a :=
    (normalize_eq_self_iff (normalize a)).mpr (isNormal_normalize a)
  refine ⟨?_, hidempotent, decide_eq_true hidempotent.symm, isNormal_normalize a,
    normalize_eq_self_iff a⟩
  rw [← pieces_eq_splitOn, ← pieces_eq_splitOn]
  exact sameNormal_iff a b

end Rehearsal.Text
