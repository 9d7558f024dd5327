/-
  Rehearsal.Regex.CharSet
  ──────────────────────────────────────
  **Sets of characters as sorted ranges.**

  Union, complement, intersection and the two differences, and the closure of a
  set under simple case folding.
-/
import Rehearsal.Unicode.CaseOrbits

namespace Rehearsal.Regex

open Rehearsal.Unicode

/-- A set of characters: disjoint ranges of code points in ascending order. -/
structure CharSet where
  ranges : Ranges
  deriving DecidableEq, Repr

namespace CharSet

/-- The greatest code point. -/
def greatest : Nat := 0x10FFFF

/-- Joins ranges that touch, in a list sorted by lower end. -/
def joinSorted : Ranges → Ranges
  | [] => []
  | (lo, hi) :: rest =>
      match joinSorted rest with
      | [] => [(lo, hi)]
      | (lo', hi') :: more =>
          if lo' ≤ hi + 1 then (lo, max hi hi') :: more else (lo, hi) :: (lo', hi') :: more

/-- The set of all characters in some ranges. -/
def ofRanges (rs : Ranges) : CharSet :=
  ⟨joinSorted (rs.mergeSort fun a b => a.1 < b.1 || (a.1 == b.1 && b.2 ≤ a.2))⟩

/-- No character. -/
def empty : CharSet := ⟨[]⟩

/-- One character. -/
def single (c : Char) : CharSet := ⟨[(c.toNat, c.toNat)]⟩

/-- Membership. -/
def mem (s : CharSet) (c : Char) : Bool := Ranges.mem c.toNat s.ranges

/-- What lies between sorted ranges, from `start` on. -/
def gaps (start : Nat) : Ranges → Ranges
  | [] => if start ≤ greatest then [(start, greatest)] else []
  | (lo, hi) :: rest =>
      if start < lo then (start, lo - 1) :: gaps (hi + 1) rest else gaps (hi + 1) rest

/-- All other characters. -/
def complement (s : CharSet) : CharSet := ⟨gaps 0 s.ranges⟩

/-- The characters of either set. -/
def union (s t : CharSet) : CharSet := ofRanges (s.ranges ++ t.ranges)

/-- The characters of both sets. -/
def inter (s t : CharSet) : CharSet := (union s.complement t.complement).complement

/-- The characters of `s` that are not in `t`. -/
def diff (s t : CharSet) : CharSet := inter s t.complement

/-- The characters of exactly one of the sets. -/
def symmDiff (s t : CharSet) : CharSet := union (diff s t) (diff t s)

/-- The set with every other case of its characters. -/
def foldCase (s : CharSet) : CharSet :=
  let added := caseOrbits.flatMap fun orbit =>
    if orbit.any (Ranges.mem · s.ranges) then orbit.map fun n => (n, n) else []
  ofRanges (s.ranges ++ added)

/-- The set with the other case of its ASCII letters. -/
def foldAscii (s : CharSet) : CharSet :=
  let added := (List.range 26).flatMap fun k =>
    if Ranges.mem (0x41 + k) s.ranges || Ranges.mem (0x61 + k) s.ranges then
      [(0x41 + k, 0x41 + k), (0x61 + k, 0x61 + k)]
    else []
  ofRanges (s.ranges ++ added)

/-- The set has no character outside ASCII. -/
def isAscii (s : CharSet) : Bool := s.ranges.all (·.2 < 0x80)

end CharSet

end Rehearsal.Regex
