/-
  Rehearsal.LineDiff
  ──────────────────────────────────────
  **A line diff of two texts.**

  The diff is found in three steps:

    • `table` — for every pair of positions the length of a common run of
      lines, row by row in one flat array,
    • `common` — a walk through the table from its last cell that collects
      lines the two texts share, in order,
    • `merge` — both texts side by side along the common lines: every line of
      either text comes out once, marked as kept, removed or added.

  In its first column the walk compares with the last cell of the row above, so
  it may end before it has found every common line; the marks then say "removed"
  and "added" where "kept" was possible.
-/
import Rehearsal.Text.Lines

namespace Rehearsal.LineDiff

/-! ## §1. The table. -/

/-- The value of cell `k` of a table with `b.length` columns, from the cells
before it. -/
def cell (a b : List Text) (before : Array Nat) (k : Nat) : Nat :=
  let columns := b.length
  let i := k / columns
  let j := k % columns
  let at' (k : Nat) : Nat := before.getD k 0
  if a.getD i [] = b.getD j [] then
    -- The cell up and to the left belongs to the same run.
    if i = 0 ∨ j = 0 then 1 else at' (k - columns - 1) + 1
  else if i = 0 then (if j = 0 then 0 else at' (k - 1))
  else if j = 0 then at' (k - columns)
  else max (at' (k - 1)) (at' (k - columns))

/-- All cells, row by row. -/
def table (a b : List Text) : Array Nat :=
  (List.range (a.length * b.length)).foldl (fun cells k => cells.push (cell a b cells k)) #[]

/-! ## §2. The common lines. -/

/-- Walks back with `i` and `j` lines of the two texts left; `found` holds the
common lines behind them. -/
def walk (a b : List Text) (cells : Array Nat) : Nat → Nat → List Text → List Text
  | 0, _, found => found
  | _ + 1, 0, found => found
  | i + 1, j + 1, found =>
      if a.getD i [] = b.getD j [] then walk a b cells i j (a.getD i [] :: found)
      else if i = 0 ∧ j = 0 then found
      -- In the first column the cell to the left is the last one of the row above.
      else if i = 0 ∨ cells.getD (i * b.length + j - 1) 0 > cells.getD ((i - 1) * b.length + j) 0
      then walk a b cells (i + 1) j found
      else walk a b cells i (j + 1) found
termination_by i j => i + j

/-- Lines that the two lists of lines have in common, in order. -/
def common (a b : List Text) : List Text := walk a b (table a b) a.length b.length []

/-! ## §3. The merge. -/

/-- What became of a line. -/
inductive Mark where
  | kept
  | removed
  | added
  deriving DecidableEq, Repr

/-- The character that a diff shows in front of a line. -/
def Mark.sign : Mark → Char
  | .kept => ' '
  | .removed => '-'
  | .added => '+'

/-- Puts the lines of both texts in one order along the common lines. -/
def merge : List Text → List Text → List Text → List (Mark × Text)
  | [], [], _ => []
  | [], y :: ys, common =>
      if common.head? = some y then [] else (.added, y) :: merge [] ys common
  | x :: xs, [], common =>
      if common.head? = some x then [] else (.removed, x) :: merge xs [] common
  | x :: xs, y :: ys, common =>
      -- A line that is not the next common one was removed.
      if common.head? = some x then
        if x = y then (.kept, x) :: merge xs ys common.tail
        else (.added, y) :: merge (x :: xs) ys common
      else (.removed, x) :: merge xs (y :: ys) common
termination_by xs ys => xs.length + ys.length

/-- The pieces of a text, none if it is empty. -/
def piecesOrNone (t : Text) : List Text := if t = [] then [] else Text.pieces t

/-- The marked lines of the diff from `old` to `new`. -/
def diff (old new : Text) : List (Mark × Text) :=
  let shared := Text.unlines (common (Text.pieces old) (Text.pieces new))
  merge (piecesOrNone old) (piecesOrNone new) (piecesOrNone shared)

end Rehearsal.LineDiff
