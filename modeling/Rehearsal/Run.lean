/-
  Rehearsal.Run
  ──────────────────────────────────────
  **Rehearsing suites in a session.**

  The setup of a suite is run once for itself and, if it was clean, replayed
  after a reload before every group and before every law.  In a group the
  dialogues come first, each up to its first step that does not succeed, then
  the laws.
-/
import Rehearsal.Comparison
import Rehearsal.Property
import Rehearsal.Report

namespace Rehearsal

/-- What a run is held with. -/
structure Rehearser (σ : Type) where
  session : Session σ
  laws : LawChecker
  comparison : Comparison

/-- What is done to the session before a group and before a law. -/
inductive Preparation where
  | reload
  /-- Reload, then evaluate the setup again without looking at the answers. -/
  | replay (setup : Group)
  deriving DecidableEq, Repr

/-- The expressions that a preparation evaluates. -/
def Preparation.expressions : Preparation → List Text
  | .reload => []
  | .replay setup => setup.dialogues.flatten.map (·.expression)

namespace Rehearser

variable {σ : Type}

/-- Reloads the session and replays the setup. -/
def prepare (r : Rehearser σ) (p : Preparation) : Act σ Unit := do
  Act.reload r.session
  Act.each (fun e => do let _ ← Act.ask r.session e) p.expressions

/-- What is recorded for a step: the expression to which the outcome is
attributed, and the outcome. -/
def verdictRecord (step : Step) : Except Blame Verdict → Text × Outcome
  | .ok .match => (step.expression, .success)
  | .ok (.mismatch diagnostic) => (step.expression, .failure diagnostic)
  | .error blame => (blame.expression, .error blame.message)

/-- Runs a dialogue up to its first step that does not succeed. -/
def runSteps (r : Rehearser σ) : List Step → Act σ Unit
  | [] => pure ()
  | step :: rest => do
      let result ← Act.converse r.session (r.comparison.check step).run
      let (expression, outcome) := verdictRecord step result
      Report.record step.place expression outcome
      if outcome.isSuccess then runSteps r rest

/-- Checks a law in a freshly prepared session. -/
def runLaw (r : Rehearser σ) (p : Preparation) (law : Law) : Act σ Unit := do
  r.prepare p
  let outcome ← Act.converse r.session (r.laws.check law.expression)
  Report.record law.place law.expression outcome

/-- Runs a group: its dialogues, then its laws. -/
def runGroup (r : Rehearser σ) (p : Preparation) (group : Group) : Act σ Unit := do
  -- The progress line shows the tally from before the group.
  Report.showProgress
  r.prepare p
  Act.each r.runSteps group.dialogues
  Act.each (r.runLaw p) group.laws

/-- Runs the setup of a suite, then its groups if the setup had no problem. -/
def runSuite (r : Rehearser σ) (suite : Suite) : Act σ Unit := do
  let before ← Act.look (·.tally)
  match suite.setup with
  | some setup => r.runGroup .reload setup
  | none => pure ()
  -- A problem in the setup leaves its mark on the tally.
  let after ← Act.look (·.tally)
  if before.errors = after.errors ∧ before.failures = after.failures then
    Act.each (r.runGroup (.replay (suite.setup.getD []))) suite.groups

/-- Runs every suite and writes the final tally. -/
def runAll (r : Rehearser σ) (suites : List Suite) : Act σ Tally := do
  Act.each r.runSuite suites
  Report.showTally
  Act.look (·.tally)

/-- Runs suites on a fresh stage whose tally knows how many examples there are. -/
def rehearse (r : Rehearser σ) (session : σ) (console : Console) (suites : List Suite) :
    Except RunFault Tally × Stage σ :=
  r.runAll suites
    { session := session, console := console, tally := .ofExamples (countExamples suites) }

end Rehearser

end Rehearsal
