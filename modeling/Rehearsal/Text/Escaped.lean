/-
  Rehearsal.Text.Escaped
  ──────────────────────────────────────
  **Text shown in a message, in quotes and on one line.**

  Unlike a literal (`Text.quote`) this form is for people: a character that
  cannot be seen is shown by its code in braces.
-/
import Rehearsal.Unicode.Categories
import Rehearsal.Unicode.Properties

namespace Rehearsal.Text

open Rehearsal.Unicode

/-- Characters with no visible shape of their own: all separators but the
space, control and format characters, private use and unassigned ones, and
those that extend the character before them. -/
def isInvisible (c : Char) : Bool :=
  let n := c.toNat
  c ≠ ' ' && (Ranges.mem n Category.control || Ranges.mem n Category.format
    || Ranges.mem n Category.privateUse || Ranges.mem n Category.lineSeparator
    || Ranges.mem n Category.paragraphSeparator || Ranges.mem n Category.spaceSeparator
    || Ranges.mem n Property.graphemeExtend || Ranges.mem n Category.unassigned)

/-- The shown form of one character. -/
def showChar (c : Char) : Text :=
  if c = '"' then "\\\""
  else if c = '\\' then "\\\\"
  else if c = '\n' then "\\n"
  else if c = '\r' then "\\r"
  else if c = '\t' then "\\t"
  else if c = '\x00' then "\\0"
  else if isInvisible c then "\\u\x7b" ++ Nat.toDigits 16 c.toNat ++ ("\x7d" : Text)
  else [c]

/-- The shown form of a text. -/
def shown (t : Text) : Text := '"' :: (t.flatMap showChar ++ ['"'])

end Rehearsal.Text
