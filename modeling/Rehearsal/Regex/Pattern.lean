/-
  Rehearsal.Regex.Pattern
  ──────────────────────────────────────
  **Regular expressions.**

  A pattern is built from character sets, positions, concatenation, choice,
  repetition and captures.  All modes (case, lines, greed) are resolved when it
  is read, so a pattern has no flags.
-/
import Rehearsal.Regex.Classes

namespace Rehearsal.Regex

/-- Conditions on a position of the text. -/
inductive Look where
  | textStart
  | textEnd
  | lineStart
  | lineEnd
  | lineStartCrlf
  | lineEndCrlf
  /-- A boundary of a word (or none); over ASCII or over all word characters. -/
  | wordBoundary (negated ascii : Bool)
  /-- Before the first character of a word. -/
  | wordStart (ascii : Bool)
  /-- After the last character of a word. -/
  | wordEnd (ascii : Bool)
  /-- No word character stands before. -/
  | wordStartHalf (ascii : Bool)
  /-- No word character stands after. -/
  | wordEndHalf (ascii : Bool)
  deriving DecidableEq, Repr

/-- A regular expression. -/
inductive Pattern where
  | empty
  | set (chars : CharSet)
  | look (cond : Look)
  | cat (first second : Pattern)
  /-- The first alternative is preferred. -/
  | alt (first second : Pattern)
  | repeat (body : Pattern) (least : Nat) (most : Option Nat) (greedy : Bool)
  | capture (index : Nat) (body : Pattern)
  deriving Repr

namespace Pattern

/-- The pattern can match the empty text. -/
def nullable : Pattern → Bool
  | empty => true
  | set _ => false
  | look _ => true
  | cat a b => a.nullable && b.nullable
  | alt a b => a.nullable || b.nullable
  | .repeat body least _ _ => least == 0 || body.nullable
  | capture _ body => body.nullable

/-- How much there is to unfold, counted in steps of a matcher. -/
def weight : Pattern → Nat
  | empty => 1
  | set chars => 1 + (if chars.ranges.length < 50 then 0 else chars.ranges.length)
  | look _ => 1
  | cat a b => a.weight + b.weight
  | alt a b => a.weight + b.weight + 1
  | .repeat body least most _ =>
      let copies := match most with
        | some m => max m least
        | none => max least 1
      (body.weight + 1) * copies + 1
  | capture _ body => body.weight + 2

end Pattern

end Rehearsal.Regex
