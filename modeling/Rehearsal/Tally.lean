/-
  Rehearsal.Tally
  ──────────────────────────────────────
  **Outcomes and their counts.**

  Everything that is checked ends in one of three outcomes; a `Tally` counts
  them.  Tallies are added field by field.
-/
import Rehearsal.Text.Chars

namespace Rehearsal

/-! ## §1. Tallies. -/

/-- Counters of a run. -/
structure Tally where
  /-- How many examples there are. -/
  examples : Nat
  /-- How many of them were tried. -/
  tried : Nat
  /-- How many could not be evaluated. -/
  errors : Nat
  /-- How many disagreed with what was expected. -/
  failures : Nat
  deriving DecidableEq, Repr

namespace Tally

/-- Nothing counted. -/
def zero : Tally := ⟨0, 0, 0, 0⟩

/-- A known number of examples, none of them tried. -/
def ofExamples (n : Nat) : Tally := ⟨n, 0, 0, 0⟩

/-- The sum, field by field. -/
def add (a b : Tally) : Tally :=
  ⟨a.examples + b.examples, a.tried + b.tried, a.errors + b.errors, a.failures + b.failures⟩

instance : Add Tally := ⟨add⟩

/-- The sum of a list of tallies. -/
def sum (ts : List Tally) : Tally := ts.foldl (· + ·) zero

/-- How many of the tried examples succeeded. -/
def successes (t : Tally) : Nat := t.tried - t.errors - t.failures

/-- Errors and failures together. -/
def problems (t : Tally) : Nat := t.errors + t.failures

/-- There was no problem. -/
def isSuccess (t : Tally) : Bool := t.problems = 0

/-- The tally as one line of a report. -/
def shown (t : Tally) : Text :=
  ("Examples: " : Text) ++ Text.ofNat t.examples ++ ("  Tried: " : Text) ++ Text.ofNat t.tried
    ++ ("  Errors: " : Text) ++ Text.ofNat t.errors
    ++ ("  Failures: " : Text) ++ Text.ofNat t.failures

/-- The tally as a JSON object on one line. -/
def json (t : Tally) : Text :=
  ("\x7b\"examples\":" : Text) ++ Text.ofNat t.examples ++ (",\"tried\":" : Text)
    ++ Text.ofNat t.tried ++ (",\"errors\":" : Text) ++ Text.ofNat t.errors
    ++ (",\"failures\":" : Text) ++ Text.ofNat t.failures ++ ("\x7d" : Text)

theorem ext_fields {a b : Tally} (he : a.examples = b.examples) (ht : a.tried = b.tried)
    (hr : a.errors = b.errors) (hf : a.failures = b.failures) : a = b := by
  cases a; cases b; simp_all

@[simp] theorem examples_add (a b : Tally) : (a + b).examples = a.examples + b.examples := rfl
@[simp] theorem tried_add (a b : Tally) : (a + b).tried = a.tried + b.tried := rfl
@[simp] theorem errors_add (a b : Tally) : (a + b).errors = a.errors + b.errors := rfl
@[simp] theorem failures_add (a b : Tally) : (a + b).failures = a.failures + b.failures := rfl

end Tally

/-! ## §2. Outcomes. -/

/-- What came of checking one step or one law. -/
inductive Outcome where
  | success
  /-- It ran and disagreed with what was expected. -/
  | failure (diagnostic : Text)
  /-- It, or what checks it, could not be evaluated. -/
  | error (message : Text)
  deriving DecidableEq, Repr

namespace Outcome

/-- What the outcome adds to the tally. -/
def delta : Outcome → Tally
  | success => ⟨0, 1, 0, 0⟩
  | failure _ => ⟨0, 1, 0, 1⟩
  | error _ => ⟨0, 1, 1, 0⟩

/-- The outcome is a success. -/
def isSuccess : Outcome → Bool
  | success => true
  | _ => false

end Outcome

end Rehearsal
