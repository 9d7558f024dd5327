/-
  Rehearsal.Unicode.Ranges
  ──────────────────────────────────────
  **Sets of code points as ascending lists of ranges.**

  A table of the character database is written as a text of hexadecimal ranges
  (`41-5A 5F`); `read` turns it into a list and `mem` looks a code point up.
-/
import Rehearsal.Text.Chars

namespace Rehearsal.Unicode

/-- Closed ranges of code points, in ascending order. -/
abbrev Ranges := List (Nat × Nat)

namespace Ranges

/-- The value of a hexadecimal digit. -/
def hexDigit? (c : Char) : Option Nat :=
  if '0' ≤ c ∧ c ≤ '9' then some (c.toNat - '0'.toNat)
  else if 'A' ≤ c ∧ c ≤ 'F' then some (c.toNat - 'A'.toNat + 10)
  else if 'a' ≤ c ∧ c ≤ 'f' then some (c.toNat - 'a'.toNat + 10)
  else none

/-- The value of hexadecimal digits. -/
def hexNumber (t : Text) : Nat := t.foldl (fun n c => n * 16 + (hexDigit? c).getD 0) 0

/-- Cuts at every character in `p`; `current` is the part at hand, reversed. -/
def cut (p : Char → Bool) (current : Text) : Text → List Text
  | [] => [current.reverse]
  | c :: t => if p c then current.reverse :: cut p [] t else cut p (c :: current) t

/-- The numbers of every word of a table; hyphens stand between them. -/
def readWords (s : String) : List (List Nat) :=
  ((cut Text.isBlank [] s.toList).filter (· ≠ [])).map fun word =>
    (cut (· = '-') [] word).map hexNumber

/-- Reads a written table. -/
def read (s : String) : Ranges :=
  (readWords s).map fun word => (word.headD 0, word.getLastD 0)

/-- The code point lies in one of the ranges; the search stops at the first
range above it. -/
def mem (n : Nat) : Ranges → Bool
  | [] => false
  | (lo, hi) :: rest => if n < lo then false else if n ≤ hi then true else mem n rest

end Ranges

end Rehearsal.Unicode
