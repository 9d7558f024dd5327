/-
  Rehearsal.Proofs.Differences
  ──────────────────────────────────────
  **A printed diff shows both texts.**

  The walk through the table may end early, but whatever it has collected by then is a
  common subsequence of the lines of both texts.  That is all the merge needs: as long as
  the common lines are a subsequence of what is left on either side, a line that is not
  the next common one can be taken from its side, and when one side is used up no common
  line is left.  So every line of either text is taken once, in order.

    • `LineDiff.Edits` — marked lines that lead from one list of lines to another,
    • `LineDiff.common_sublist` — the common lines are a subsequence of both sides,
    • `LineDiff.diff_edits` — a diff leads from the old text to the new one,
    • `Verdict.compareLines_shows_both` — what is printed.
-/
import Mathlib.Data.List.Basic
import Rehearsal.Proofs.Diagnostics

namespace Rehearsal

namespace LineDiff

open Text

open scoped List

variable {old new : List Text} {entries : List (Mark × Text)}

/-! ## §1. Marked lines. -/

/-- **Marked lines lead from one list of lines to another:** kept lines belong to both,
removed ones to the first and added ones to the second. -/
inductive Edits : List Text → List Text → List (Mark × Text) → Prop
  | done : Edits [] [] []
  | kept {old new : List Text} {entries : List (Mark × Text)} (line : Text)
      (more : Edits old new entries) : Edits (line :: old) (line :: new) ((.kept, line) :: entries)
  | removed {old new : List Text} {entries : List (Mark × Text)} (line : Text)
      (more : Edits old new entries) : Edits (line :: old) new ((.removed, line) :: entries)
  | added {old new : List Text} {entries : List (Mark × Text)} (line : Text)
      (more : Edits old new entries) : Edits old (line :: new) ((.added, line) :: entries)

/-- The lines under one of some marks. -/
def under (marks : List Mark) (entries : List (Mark × Text)) : List Text :=
  entries.filterMap fun entry => if entry.1 ∈ marks then some entry.2 else none

namespace Edits

/-- What is not added is the old list. -/
theorem old_eq (h : Edits old new entries) : under [.kept, .removed] entries = old := by
  induction h with
  | done => rfl
  | kept line more ih => exact congrArg (line :: ·) ih
  | removed line more ih => exact congrArg (line :: ·) ih
  | added line more ih => exact ih

/-- What is not removed is the new list. -/
theorem new_eq (h : Edits old new entries) : under [.kept, .added] entries = new := by
  induction h with
  | done => rfl
  | kept line more ih => exact congrArg (line :: ·) ih
  | removed line more ih => exact ih
  | added line more ih => exact congrArg (line :: ·) ih

/-- No line is taken twice. -/
theorem length_le (h : Edits old new entries) : entries.length ≤ old.length + new.length := by
  induction h with
  | done => exact Nat.le_refl _
  | kept line more ih | removed line more ih | added line more ih =>
    simp only [List.length_cons]
    omega

/-- Every marked line stands in one of the lists. -/
theorem mem (h : Edits old new entries) {entry : Mark × Text} (hentry : entry ∈ entries) :
    entry.2 ∈ old ∨ entry.2 ∈ new := by
  induction h with
  | done => cases hentry
  | kept line more ih =>
    rcases List.mem_cons.mp hentry with rfl | hentry
    · exact .inl (List.mem_cons_self ..)
    · exact (ih hentry).imp (List.mem_cons_of_mem line) (List.mem_cons_of_mem line)
  | removed line more ih =>
    rcases List.mem_cons.mp hentry with rfl | hentry
    · exact .inl (List.mem_cons_self ..)
    · exact (ih hentry).imp_left (List.mem_cons_of_mem line)
  | added line more ih =>
    rcases List.mem_cons.mp hentry with rfl | hentry
    · exact .inr (List.mem_cons_self ..)
    · exact (ih hentry).imp_right (List.mem_cons_of_mem line)

/-- Without a change both lists are the same. -/
theorem eq_of_unchanged (h : Edits old new entries)
    (hkept : under [.removed, .added] entries = []) : old = new := by
  induction h with
  | done => rfl
  | kept line more ih => exact congrArg (line :: ·) (ih hkept)
  | removed line more ih => cases hkept
  | added line more ih => cases hkept

end Edits

/-! ## §2. The common lines. -/

/-- One more common line in front of what is left of a list. -/
theorem cons_sublist_drop {a found : List Text} {i : Nat} (hi : i < a.length)
    (h : found <+ a.drop (i + 1)) : a.getD i [] :: found <+ a.drop i := by
  rw [List.drop_eq_getElem_cons hi, List.getElem_eq_getD []]
  exact h.cons_cons _

/-- **What the walk collects is a common subsequence,** whatever the table says. -/
theorem walk_sublist (a b : List Text) (cells : Array Nat) (i j : Nat) (found : List Text)
    (hi : i ≤ a.length) (hj : j ≤ b.length) (ha : found <+ a.drop i) (hb : found <+ b.drop j) :
    walk a b cells i j found <+ a ∧ walk a b cells i j found <+ b := by
  have hstop : found <+ a ∧ found <+ b :=
    ⟨ha.trans (List.drop_sublist i a), hb.trans (List.drop_sublist j b)⟩
  -- Each step of the walk leaves one line of one side behind, or a line that is found on both.
  induction i, j, found using walk.induct a b cells with
  | case1 j found => rwa [walk]
  | case2 i found => rwa [walk]
  | case3 i j found heq ih =>
    rw [walk, if_pos heq]
    have ha' := cons_sublist_drop hi ha
    have hb' := heq ▸ cons_sublist_drop hj hb
    exact ih (Nat.le_of_lt hi) (Nat.le_of_lt hj) ha' hb'
      ⟨ha'.trans (List.drop_sublist i a), hb'.trans (List.drop_sublist j b)⟩
  | case4 i j found hne hfirst => rwa [walk, if_neg hne, if_pos hfirst]
  | case5 i j found hne hfirst hleft ih =>
    rw [walk, if_neg hne, if_neg hfirst, if_pos hleft]
    exact ih hi (Nat.le_of_lt hj) ha (hb.trans (List.drop_sublist_drop_left b (Nat.le_succ j))) hstop
  | case6 i j found hne hfirst hup ih =>
    rw [walk, if_neg hne, if_neg hfirst, if_neg hup]
    exact ih (Nat.le_of_lt hi) hj (ha.trans (List.drop_sublist_drop_left a (Nat.le_succ i))) hb hstop

theorem common_sublist (a b : List Text) : common a b <+ a ∧ common a b <+ b :=
  walk_sublist a b (table a b) a.length b.length [] (Nat.le_refl _) (Nat.le_refl _)
    (List.nil_sublist _) (List.nil_sublist _)

/-- Joined and cut again, common lines are still common.  A lone empty line is lost on the
way. -/
theorem piecesOrNone_sublist {rows : List Text} {t : Text} (h : rows <+ pieces t) :
    piecesOrNone (unlines rows) <+ piecesOrNone t := by
  unfold piecesOrNone
  by_cases hrows : unlines rows = []
  · rw [if_pos hrows]
    exact List.nil_sublist _
  · have hne : rows ≠ [] := by
      rintro rfl
      exact hrows rfl
    have ht : t ≠ [] := by
      rintro rfl
      -- The only line of an empty text is empty.
      rcases List.sublist_cons_iff.mp h with h | ⟨rest, rfl, hrest⟩
      · exact hne (List.sublist_nil.mp h)
      · rw [List.sublist_nil.mp hrest] at hrows
        exact hrows rfl
    rw [if_neg hrows, if_neg ht,
      pieces_unlines hne fun row hrow => newline_not_mem_pieces t row (h.subset hrow)]
    exact h

/-! ## §3. The merge. -/

/-- A line that is not the next common one can be left behind. -/
theorem sublist_of_head?_ne {shared xs : List Text} {x : Text} (h : shared <+ x :: xs)
    (hne : shared.head? ≠ some x) : shared <+ xs := by
  rcases List.sublist_cons_iff.mp h with h | ⟨rest, rfl, -⟩
  · exact h
  · exact absurd rfl hne

/-- **The merge takes every line of either side once,** if the common lines are common. -/
theorem merge_edits {old new shared : List Text} (hold : shared <+ old) (hnew : shared <+ new) :
    Edits old new (merge old new shared) := by
  induction old, new, shared using merge.induct with
  | case1 shared =>
    rw [merge]
    exact .done
  | case2 y ys shared hhead =>
    -- No common line is left when one side is used up.
    rw [List.sublist_nil.mp hold] at hhead
    cases hhead
  | case3 y ys shared hhead ih =>
    rw [merge, if_neg hhead]
    exact (ih hold (sublist_of_head?_ne hnew hhead)).added y
  | case4 x xs shared hhead =>
    rw [List.sublist_nil.mp hnew] at hhead
    cases hhead
  | case5 x xs shared hhead ih =>
    rw [merge, if_neg hhead]
    exact (ih (sublist_of_head?_ne hold hhead) hnew).removed x
  | case6 xs y ys shared hhead ih =>
    rw [merge, if_pos hhead, if_pos rfl]
    exact (ih hold.tail hnew.tail).kept y
  | case7 x xs y ys shared hhead hne ih =>
    rw [merge, if_pos hhead, if_neg hne]
    refine (ih hold (sublist_of_head?_ne hnew ?_)).added y
    rw [hhead]
    exact fun heq => hne (Option.some.inj heq)
  | case8 x xs y ys shared hhead ih =>
    rw [merge, if_neg hhead]
    exact (ih (sublist_of_head?_ne hold hhead) hnew).removed x

/-- **A diff leads from the old text to the new one.** -/
theorem diff_edits (old new : Text) :
    Edits (piecesOrNone old) (piecesOrNone new) (diff old new) := by
  obtain ⟨hold, hnew⟩ := common_sublist (pieces old) (pieces new)
  exact merge_edits (piecesOrNone_sublist hold) (piecesOrNone_sublist hnew)

theorem piecesOrNone_inj {t u : Text} (h : piecesOrNone t = piecesOrNone u) : t = u := by
  unfold piecesOrNone at h
  split at h
  next ht =>
    split at h
    next hu => exact ht.trans hu.symm
    next hu => exact absurd h.symm (pieces_ne_nil u)
  next ht =>
    split at h
    next hu => exact absurd h (pieces_ne_nil t)
    next hu => exact pieces_inj h

theorem newline_not_mem_piecesOrNone {t line : Text} (h : line ∈ piecesOrNone t) : '\n' ∉ line := by
  unfold piecesOrNone at h
  split at h
  · cases h
  · exact newline_not_mem_pieces t line h

/-- The lines of a diff have no newline in them. -/
theorem newline_not_mem_diff {old new : Text} {entry : Mark × Text} (h : entry ∈ diff old new) :
    '\n' ∉ entry.2 := by
  rcases (diff_edits old new).mem h with hold | hnew
  · exact newline_not_mem_piecesOrNone hold
  · exact newline_not_mem_piecesOrNone hnew

theorem Mark.sign_injective : Function.Injective Mark.sign := by
  intro mark mark' h
  cases mark <;> cases mark' <;> first | rfl | exact absurd h (by decide)

end LineDiff

/-! ## §4. The printed block. -/

namespace Verdict

open Text LineDiff

/-- A line of a diff block without its newline. -/
def diffRow (entry : Mark × Text) : Text := ' ' :: ' ' :: entry.1.sign :: entry.2

/-- The lines of a diff block that are marked by one of some signs, without their marks. -/
def signed (signs : List Char) (rows : List Text) : List Text :=
  rows.filterMap fun
    | ' ' :: ' ' :: sign :: line => if sign ∈ signs then some line else none
    | _ => none

/-- The signs of some marks single out their lines. -/
theorem signed_diffRow (marks : List Mark) (entries : List (Mark × Text)) :
    signed (marks.map Mark.sign) (entries.map diffRow) = under marks entries := by
  unfold signed under
  rw [List.filterMap_map]
  refine congrArg (List.filterMap · entries) (funext fun entry => ?_)
  show (if entry.1.sign ∈ marks.map Mark.sign then some entry.2 else none) = _
  simp only [List.mem_map_of_injective Mark.sign_injective]

/-- A block is cut into the lines that it was made of. -/
theorem pieces_diffBlock {entries : List (Mark × Text)} (h : ∀ entry ∈ entries, '\n' ∉ entry.2) :
    pieces (entries.flatMap diffLine) = entries.map diffRow ++ [[]] := by
  have hrows : ∀ row ∈ entries.map diffRow, '\n' ∉ row := by
    intro row hrow
    obtain ⟨entry, hentry, rfl⟩ := List.mem_map.mp hrow
    have hsign : '\n' ≠ entry.1.sign := by cases entry.1 <;> decide
    simp [diffRow, hsign, h entry hentry]
  have hblock : entries.flatMap diffLine = (entries.map diffRow).flatMap (· ++ ['\n']) ++ [] := by
    rw [List.append_nil, List.flatMap_map]
    rfl
  rw [hblock, pieces_rows hrows List.not_mem_nil]

/-- **A printed diff shows both texts.**  Where a line-exact mismatch has a diff block,
this consists of complete lines with one of the three marks.  The lines that are kept or
removed are the lines of the joined expected text, the ones that are kept or added are
those of the actual text, each list in order, where an empty text has no lines; so the
block has no more lines than both texts together.  If the texts differ, something is
removed or added. -/
theorem compareLines_shows_both {expected : List Text} {actual block : Text}
    (h : compareLines expected actual
      = .mismatch (heading (unlines expected) actual ++ (("diff:\n" : Text) ++ block))) :
    ∃ rows, pieces block = rows ++ [[]]
      ∧ (∀ row ∈ rows, ∃ sign ∈ [' ', '-', '+'], ∃ line, row = ' ' :: ' ' :: sign :: line)
      ∧ signed [' ', '-'] rows = piecesOrNone (unlines expected)
      ∧ signed [' ', '+'] rows = piecesOrNone actual
      ∧ rows.length ≤ (piecesOrNone (unlines expected)).length + (piecesOrNone actual).length
      ∧ (unlines expected ≠ actual → signed ['-', '+'] rows ≠ []) := by
  have hedits := diff_edits (unlines expected) actual
  obtain rfl : block = (diff (unlines expected) actual).flatMap diffLine := by
    have hblock := List.append_cancel_left (lineDiagnostic_of_mismatch h)
    split at hblock
    · exact (List.append_cancel_left hblock).symm
    · cases hblock
  refine ⟨(diff (unlines expected) actual).map diffRow,
    pieces_diffBlock fun entry => newline_not_mem_diff, ?_,
    (signed_diffRow [.kept, .removed] _).trans hedits.old_eq,
    (signed_diffRow [.kept, .added] _).trans hedits.new_eq, ?_, ?_⟩
  · intro row hrow
    obtain ⟨entry, -, rfl⟩ := List.mem_map.mp hrow
    exact ⟨entry.1.sign, by cases entry.1 <;> decide, entry.2, rfl⟩
  · rw [List.length_map]
    exact hedits.length_le
  · intro hne hnone
    have hunchanged := (signed_diffRow [.removed, .added] _).symm.trans hnone
    exact hne (piecesOrNone_inj (hedits.eq_of_unchanged hunchanged))

/-- The only common line is a lone empty one, which gets lost: all lines are shown as
removed or added. -/
theorem compareLines_shows_both_sample :
    let expected : List Text := ["", "a"]
    let block : Text := "  -\n  -a\n  +b\n  +\n"
    LineDiff.common (pieces (unlines expected)) (pieces "b\n") = [[]]
      ∧ compareLines expected "b\n"
        = .mismatch (heading (unlines expected) "b\n" ++ (("diff:\n" : Text) ++ block))
      ∧ ∃ rows, pieces block = rows ++ [[]]
        ∧ signed [' ', '-'] rows = expected ∧ signed [' ', '+'] rows = ["b", ""] := by
  intro expected block
  have hshown : compareLines expected "b\n"
      = .mismatch (heading (unlines expected) "b\n" ++ (("diff:\n" : Text) ++ block)) := by
    decide +kernel
  obtain ⟨rows, hpieces, -, hexpected, hactual, -⟩ := compareLines_shows_both hshown
  exact ⟨by decide +kernel, hshown, rows, hpieces, hexpected, hactual⟩

end Verdict

end Rehearsal
