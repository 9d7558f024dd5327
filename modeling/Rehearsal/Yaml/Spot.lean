/-
  Rehearsal.Yaml.Spot
  ──────────────────────────────────────
  **A document as characters that know their position.**

  Indentation decides how a document is read, so every character carries its
  line and column.  The list of spots ends in one spot with the character
  `U+0000`, which stands for the end of the document and occurs nowhere else.
-/
import Rehearsal.Text.Chars

namespace Rehearsal.Yaml

/-- A character and its position. -/
structure Spot where
  char : Char
  line : Nat
  column : Nat
  index : Nat
  deriving Repr

/-- The rest of a document. -/
abbrev Spots := List Spot

/-- The character that stands for the end. -/
def endChar : Char := '\x00'

/-! ## §1. Classes of characters. -/

/-- Line breaks. -/
def isBreak (c : Char) : Bool :=
  c = '\r' || c = '\n' || c = '\u0085' || c = '\u2028' || c = '\u2029'

/-- Spaces and tabs. -/
def isSpace (c : Char) : Bool := c = ' ' || c = '\t'

/-- A line break or the end. -/
def isBreakOrEnd (c : Char) : Bool := isBreak c || c = endChar

/-- A space, a tab, a line break or the end. -/
def isGap (c : Char) : Bool := isSpace c || isBreakOrEnd c

/-- Letters, digits, hyphens and underscores of ASCII. -/
def isWordChar (c : Char) : Bool :=
  ('0' ≤ c && c ≤ '9') || ('A' ≤ c && c ≤ 'Z') || ('a' ≤ c && c ≤ 'z') || c = '_' || c = '-'

/-- Characters that a document may hold. -/
def isAllowed (c : Char) : Bool :=
  let n := c.toNat
  n == 9 || n == 10 || n == 13 || (0x20 ≤ n && n ≤ 0x7E) || n == 0x85
    || (0xA0 ≤ n && n ≤ 0xD7FF) || (0xE000 ≤ n && n ≤ 0xFFFD) || 0x10000 ≤ n

/-! ## §2. Positions. -/

namespace Spots

/-- Gives every character its position; a carriage return and a newline together
are one line break. -/
def place (line column index : Nat) : Text → Spots
  | [] => [⟨endChar, line, column, index⟩]
  | c :: t =>
      let here : Spot := ⟨c, line, column, index⟩
      if isBreak c && !(c = '\r' && t.head? = some '\n') then
        here :: place (line + 1) 0 (index + 1) t
      else here :: place line (column + 1) (index + 1) t

/-- The character at the front. -/
def char (s : Spots) : Char := (s.head?.map (·.char)).getD endChar

/-- The character `n` places behind the front. -/
def charAt (n : Nat) (s : Spots) : Char := (s[n]?.map (·.char)).getD endChar

/-- The column of the front. -/
def column (s : Spots) : Nat := (s.head?.map (·.column)).getD 0

/-- The line of the front. -/
def line (s : Spots) : Nat := (s.head?.map (·.line)).getD 0

/-- The index of the front. -/
def index (s : Spots) : Nat := (s.head?.map (·.index)).getD 0

/-- Drops characters as long as they are in `p`. -/
def skipWhile (p : Char → Bool) (s : Spots) : Spots :=
  List.dropWhile (fun x => p x.char) s

/-- The characters in `p` at the front, and the rest. -/
def takeWhile (p : Char → Bool) (s : Spots) : Text × Spots :=
  ((List.takeWhile (fun x => p x.char) s).map (·.char), skipWhile p s)

/-- Drops the line break at the front, if there is one. -/
def skipBreak : Spots → Spots
  | [] => []
  | s :: rest =>
      if s.char = '\r' && char rest = '\n' then rest.tail
      else if isBreak s.char then rest else s :: rest

/-- The text of the line break at the front: a newline, but for the two Unicode
separators, which stand for themselves. -/
def breakText (s : Spots) : Text :=
  let c := char s
  if c = '\u2028' || c = '\u2029' then [c] else if isBreak c then ['\n'] else []

/-- A line `---` or `...` starts at the front. -/
def atMarker (sign : Char) (s : Spots) : Bool :=
  s.column == 0 && s.charAt 0 == sign && s.charAt 1 == sign && s.charAt 2 == sign
    && isGap (s.charAt 3)

/-- Either document marker starts at the front. -/
def atAnyMarker (s : Spots) : Bool := s.atMarker '-' || s.atMarker '.'

/-- The spots of a document; `none` if a character is not allowed.  A byte order
mark in front is no part of the document; a second one is skipped like a blank and
takes a column. -/
def ofText? (t : Text) : Option Spots :=
  let spots := match t with
    | '\uFEFF' :: '\uFEFF' :: t => place 0 1 1 t
    | '\uFEFF' :: t => place 0 0 0 t
    | t => place 0 0 0 t
  if t.all isAllowed then some spots else none

end Spots

end Rehearsal.Yaml
