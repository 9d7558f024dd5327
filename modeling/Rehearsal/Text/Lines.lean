/-
  Rehearsal.Text.Lines
  ──────────────────────────────────────
  **Pieces, lines and the normal form of printed text.**

  Three ways to cut a text at its newlines are kept apart:

    • `pieces` — cut at every newline; never empty, nothing is dropped,
    • `lines` — newline-terminated lines without their line ends (one carriage
      return before the newline belongs to the line end), and the unterminated
      rest if it is not empty,
    • `normalize` — the lines without trailing blanks, blank ones left out.
-/
import Rehearsal.Text.Chars

namespace Rehearsal.Text

/-! ## §1. Pieces. -/

/-- Cuts at every newline. -/
def pieces : Text → List Text
  | [] => [[]]
  | c :: t =>
      if c = '\n' then [] :: pieces t
      else match pieces t with
        | [] => [[c]]
        | p :: ps => (c :: p) :: ps

/-- Joins with one newline between neighbours. -/
def unlines : List Text → Text
  | [] => []
  | [p] => p
  | p :: q :: ps => p ++ '\n' :: unlines (q :: ps)

theorem pieces_ne_nil (t : Text) : pieces t ≠ [] := by
  cases t with
  | nil => simp [pieces]
  | cons c t =>
    unfold pieces
    split
    · simp
    · split <;> simp

/-- **Cutting loses nothing:** the pieces joined again are the text. -/
theorem unlines_pieces (t : Text) : unlines (pieces t) = t := by
  induction t with
  | nil => rfl
  | cons c t ih =>
    unfold pieces
    split
    · rename_i h
      cases hp : pieces t with
      | nil => exact absurd hp (pieces_ne_nil t)
      | cons p ps => simp [unlines, ← hp, ih, h]
    · cases hp : pieces t with
      | nil => exact absurd hp (pieces_ne_nil t)
      | cons p ps =>
        rw [hp] at ih
        cases ps with
        | nil => simpa [unlines] using ih
        | cons q ps => simpa [unlines] using ih

/-! ## §2. Lines. -/

/-- Drops one carriage return at the end. -/
def dropCarriageReturn (t : Text) : Text :=
  if t.getLast? = some '\r' then t.dropLast else t

/-- The lines of a list of pieces: all but the last one ended in a newline,
and the last one counts only if it is not empty. -/
def linesOfPieces : List Text → List Text
  | [] => []
  | [p] => if p = [] then [] else [p]
  | p :: q :: ps => dropCarriageReturn p :: linesOfPieces (q :: ps)

/-- The lines of a text, without their line ends. -/
def lines (t : Text) : List Text := linesOfPieces (pieces t)

/-! ## §3. The normal form. -/

/-- Trailing blanks of each line and all blank lines are left out. -/
def normalize (t : Text) : Text :=
  unlines (((lines t).map trimEnd).filter (· ≠ []))

/-- Equality up to trailing blanks and blank lines. -/
def sameNormal (a b : Text) : Bool := normalize a = normalize b

end Rehearsal.Text
