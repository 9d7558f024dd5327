/-
  Rehearsal.Shell.Glob
  ──────────────────────────────────────
  **Patterns of a shell.**

  `*` matches any text, `?` any character and `[…]` a set of characters.  A
  character that was quoted stands for itself.
-/
import Rehearsal.Text.Chars

namespace Rehearsal.Shell

/-- A pattern: its characters, and whether each of them was quoted. -/
abbrev Glob := List (Char × Bool)

namespace Glob

/-- A set of characters as ranges. -/
structure CharRanges where
  negated : Bool
  ranges : List (Char × Char)

/-- The set contains a character. -/
def CharRanges.mem (s : CharRanges) (c : Char) : Bool :=
  s.negated != s.ranges.any fun (lo, hi) => lo ≤ c && c ≤ hi

/-- Reads the members of a set up to the closing bracket; one that comes first
is a member. -/
def members (first : Bool) : Glob → Option (List (Char × Char) × Glob)
  | [] => none
  | (']', false) :: rest =>
      if first then (members false rest).map fun (rs, rest) => ((']', ']') :: rs, rest)
      else some ([], rest)
  | (lo, _) :: ('-', false) :: (hi, q) :: rest =>
      if hi = ']' && !q then
        (members false ((hi, q) :: rest)).map fun (rs, rest) =>
          ((lo, lo) :: ('-', '-') :: rs, rest)
      else (members false rest).map fun (rs, rest) => ((lo, hi) :: rs, rest)
  | (c, _) :: rest => (members false rest).map fun (rs, rest) => ((c, c) :: rs, rest)

/-- Reads a set behind its opening bracket. -/
def set? : Glob → Option (CharRanges × Glob)
  | ('!', false) :: rest => (members true rest).map fun (rs, rest) => (⟨true, rs⟩, rest)
  | rest => (members true rest).map fun (rs, rest) => (⟨false, rs⟩, rest)

/-- The ends of the texts that are left when the pattern has matched a start. -/
def starts (fuel : Nat) (g : Glob) (t : Text) : List Text :=
  match fuel with
  | 0 => []
  | fuel + 1 =>
      match g, t with
      | [], t => [t]
      | ('*', false) :: rest, t =>
          starts fuel rest t ++ (match t with | [] => [] | _ :: t => starts fuel g t)
      | ('?', false) :: rest, _ :: t => starts fuel rest t
      | ('[', false) :: rest, c :: t =>
          match set? rest with
          | some (s, rest) => if s.mem c then starts fuel rest t else []
          | none => if c = '[' then starts fuel rest t else []
      | (p, _) :: rest, c :: t => if p = c then starts fuel rest t else []
      | _ :: _, [] => []

/-- What can be left of a text behind a match; the shortest match comes first. -/
def remainders (g : Glob) (t : Text) : List Text := starts (g.length + t.length + 1) g t

/-- The pattern matches the whole text. -/
def isMatch (g : Glob) (t : Text) : Bool := (g.remainders t).contains []

/-- The text without the shortest or longest start that matches. -/
def dropStart (g : Glob) (longest : Bool) (t : Text) : Text :=
  let ends := (List.range (t.length + 1)).filter fun n => g.isMatch (t.take n)
  match if longest then ends.getLast? else ends.head? with
  | some n => t.drop n
  | none => t

/-- The text without the shortest or longest end that matches. -/
def dropEnd (g : Glob) (longest : Bool) (t : Text) : Text :=
  let cuts := (List.range (t.length + 1)).filter fun n => g.isMatch (t.drop n)
  match if longest then cuts.head? else cuts.getLast? with
  | some n => t.take n
  | none => t

end Glob

end Rehearsal.Shell
