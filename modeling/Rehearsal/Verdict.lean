/-
  Rehearsal.Verdict
  ──────────────────────────────────────
  **Whether an answer is the expected one, and what is shown if it is not.**

    • `compareLines` — the lines of the answer are the expected lines,
    • `lineDiagnostic` — expected and actual text, and their diff,
    • `delegatedDiagnostic` — expected and actual text before and after their
      cleanup, and the definitions of the comparison.
-/
import Rehearsal.LineDiff

namespace Rehearsal

/-- The judgement on an answer. -/
inductive Verdict where
  | match
  | mismatch (diagnostic : Text)
  deriving DecidableEq, Repr

namespace Verdict

/-! ## §1. Labelled blocks. -/

/-- A label and a text, the further pieces of the text aligned under the first
one. -/
def labeled (label text : Text) : Text :=
  match Text.pieces text with
  -- A text always has a piece, so this row is never used.
  | [] => label ++ (" \n" : Text)
  | first :: more =>
      label ++ ' ' :: first ++ '\n' ::
        more.flatMap fun p => List.replicate (label.length + 1) ' ' ++ p ++ ['\n']

/-! ## §2. Line by line. -/

/-- One line of a diff block. -/
def diffLine (entry : LineDiff.Mark × Text) : Text :=
  ' ' :: ' ' :: entry.1.sign :: entry.2 ++ ['\n']

/-- What is shown when the lines differ; a diff only where one side has several
lines. -/
def lineDiagnostic (expected actual : Text) : Text :=
  labeled "expected:" expected ++ labeled " but got:" actual ++
    if (Text.lines expected).length > 1 ∨ (Text.lines actual).length > 1 then
      ("diff:\n" : Text) ++ (LineDiff.diff expected actual).flatMap diffLine
    else []

/-- Line-exact comparison of an answer with the expected lines. -/
def compareLines (expected : List Text) (actual : Text) : Verdict :=
  if Text.lines actual = expected then .match
  else .mismatch (lineDiagnostic (Text.unlines expected) actual)

/-! ## §3. Delegated comparison. -/

/-- The texts that a delegated comparison worked on. -/
structure Sides where
  expected : Text
  actual : Text
  cleanExpected : Text
  cleanActual : Text
  deriving DecidableEq, Repr

/-- What a missing cleanup and a missing predicate stand for. -/
def definitions (cleanExpected cleanActual equals : Option Text) : Text :=
  let cleanup (t : Option Text) : Text := t.getD "{text}"
  ("definition:\n  expected' = " : Text) ++ cleanup cleanExpected
    ++ ("\n  actual'   = " : Text) ++ cleanup cleanActual
    ++ ("\n  equal     = " : Text)
    ++ equals.getD "trailing whitespace stripped, blank lines dropped, then compared as text"
    ++ ['\n']

/-- What is shown when the two sides are not equal; the cleaned texts only where
cleaning changed something. -/
def delegatedDiagnostic (cleanExpected cleanActual equals : Option Text) (s : Sides) : Text :=
  labeled "expected:" s.expected ++ labeled " but got:" s.actual ++
    (if s.cleanExpected ≠ s.expected ∨ s.cleanActual ≠ s.actual then
      labeled "expected (cleaned):" s.cleanExpected
        ++ labeled " but got (cleaned):" s.cleanActual
    else []) ++
    definitions cleanExpected cleanActual equals

end Verdict

/-- Reads a boolean that an interpreter printed. -/
def readBool (t : Text) : Option Bool :=
  let t := Text.trim t
  if t = ("True" : Text) ∨ t = ("true" : Text) then some true
  else if t = ("False" : Text) ∨ t = ("false" : Text) then some false
  else none

end Rehearsal
