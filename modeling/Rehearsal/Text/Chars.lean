/-
  Rehearsal.Text.Chars
  ──────────────────────────────────────
  **Text as a list of characters, and the two character classes it is cut by.**

  All text of the library (expressions, answers, report lines, file contents)
  is a `List Char`, so that every function on it is a recursion that a proof
  can follow.  A string literal stands for its characters.

    • `isBlank` — the Unicode property `White_Space`,
    • `isControl` — the Unicode general category `Cc`,
    • `trimEnd`, `trimStart`, `trim` — cutting blanks off the ends.
-/

namespace Rehearsal

/-- Text is the list of its characters. -/
abbrev Text := List Char

/-- A string literal is read as its characters. -/
instance : Coe String Text := ⟨String.toList⟩

namespace Text

/-! ## §1. Character classes. -/

/-- The 25 characters with the Unicode property `White_Space`. -/
def isBlank (c : Char) : Bool :=
  let n := c.toNat
  (9 ≤ n && n ≤ 13) || n == 0x20 || n == 0x85 || n == 0xA0 || n == 0x1680
    || (0x2000 ≤ n && n ≤ 0x200A) || n == 0x2028 || n == 0x2029 || n == 0x202F
    || n == 0x205F || n == 0x3000

/-- The 65 characters of the general category `Cc`. -/
def isControl (c : Char) : Bool :=
  c.toNat < 0x20 || (0x7F ≤ c.toNat && c.toNat < 0xA0)

/-! ## §2. Cutting blanks off the ends. -/

/-- Drops the longest run of characters in `p` from the end. -/
def dropEndWhile (p : Char → Bool) (t : Text) : Text :=
  (t.reverse.dropWhile p).reverse

/-- Drops all trailing blanks. -/
def trimEnd (t : Text) : Text := dropEndWhile isBlank t

/-- Drops all leading blanks. -/
def trimStart (t : Text) : Text := t.dropWhile isBlank

/-- Drops the blanks at both ends. -/
def trim (t : Text) : Text := trimEnd (trimStart t)

/-- The text starts with the given one. -/
def startsWith (start t : Text) : Bool := start.isPrefixOf t

/-- What is left in front of `ending`, if the text ends with it. -/
def before? (ending t : Text) : Option Text :=
  if ending.isSuffixOf t then some (t.take (t.length - ending.length)) else none

/-- Decimal digits of a number. -/
def ofNat (n : Nat) : Text := Nat.toDigits 10 n

end Text

end Rehearsal
