/-
  Rehearsal.Comparison
  ──────────────────────────────────────
  **Checking one step.**

  The expression of the step is evaluated first.  A line-exact comparison then
  looks at the answer itself.  A delegated one lets the interpreter clean both
  texts and decide whether they are equal; without such definitions it compares
  normal forms.
-/
import Rehearsal.Inquiry
import Rehearsal.Suite
import Rehearsal.Verdict
import Rehearsal.Text.Escaped
import Rehearsal.Text.Literal
import Rehearsal.Text.Template

namespace Rehearsal

/-- Who decides whether an answer is the expected one. -/
inductive Strategy where
  | lineExact
  | delegated
  deriving DecidableEq, Repr

/-- How answers are compared. -/
structure Comparison where
  strategy : Strategy := .delegated
  /-- Cleans the expected text, which stands for `{text}` as a literal. -/
  cleanExpected : Option Text := none
  /-- Cleans the answer, which stands for `{text}` as a literal. -/
  cleanActual : Option Text := none
  /-- Prints whether `{actual}` and `{expected}` are equal. -/
  equals : Option Text := none
  deriving DecidableEq, Repr

namespace Comparison

/-- The call that cleans `text`. -/
def cleanupCall (template text : Text) : Text :=
  Text.fill [("text", Text.quote text)] template

/-- The call that compares two cleaned texts. -/
def equalsCall (template actual expected : Text) : Text :=
  Text.fill [("actual", Text.quote actual), ("expected", Text.quote expected)] template

/-- The cleaned text; without a template the text itself. -/
def cleaned (template : Option Text) (text : Text) : Examination Text :=
  match template with
  | none => pure text
  | some template => Examination.evaluate (cleanupCall template text)

/-- The error of a predicate that printed something else than a boolean. -/
def notBoolean (output : Text) : Text :=
  ("equality predicate printed " : Text) ++ Text.shown (Text.trim output)
    ++ (", which is not a boolean" : Text)

/-- Whether two cleaned texts are equal. -/
def decideEqual (equals : Option Text) (actual expected : Text) : Examination Bool :=
  match equals with
  | none => pure (Text.sameNormal actual expected)
  | some template => do
      let call := equalsCall template actual expected
      let output ← Examination.evaluate call
      match readBool output with
      | some b => pure b
      | none => throw ⟨call, notBoolean output⟩

/-- Compares an answer through the interpreter's own definitions. -/
def compareDelegated (c : Comparison) (expected : List Text) (actual : Text) :
    Examination Verdict := do
  let expected := Text.unlines expected
  let cleanExpected ← cleaned c.cleanExpected expected
  let cleanActual ← cleaned c.cleanActual actual
  if ← decideEqual c.equals cleanActual cleanExpected then
    pure .match
  else
    pure (.mismatch (Verdict.delegatedDiagnostic c.cleanExpected c.cleanActual c.equals
      { expected, actual, cleanExpected, cleanActual }))

/-- Evaluates the expression of a step and judges the answer. -/
def check (c : Comparison) (step : Step) : Examination Verdict := do
  let actual ← Examination.evaluate step.expression
  match c.strategy with
  -- No further question is asked.
  | .lineExact => pure (Verdict.compareLines step.expected actual)
  | .delegated => compareDelegated c step.expected actual

end Comparison

end Rehearsal
