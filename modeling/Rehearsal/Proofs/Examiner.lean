/-
  Rehearsal.Proofs.Examiner
  ──────────────────────────────────────
  **Runs with any checker of laws.**

  A run does not depend on how laws are checked: here an examiner may ask the
  session what it likes, also reload it, and come to any outcome.  The law checker
  of a rehearser is one examiner, and its run is the run with this one.
-/
import Rehearsal.Proofs.Course

namespace Rehearsal

variable {σ α : Type}

/-- Checks laws in a session.  What it remembers from law to law is a part of the
session's state. -/
structure Examiner (σ : Type) where
  /-- The outcome, the requests that were made for it, and the state they lead to. -/
  examine : σ → Text → Outcome × List Event × σ
  requests : ∀ state law, ∀ event ∈ (examine state law).2.1, event.isRequest = true

/-- Has a law checked. -/
def Examiner.check (x : Examiner σ) (law : Text) : Act σ Outcome := fun stage =>
  let (outcome, requests, session) := x.examine stage.session law
  (.ok outcome, { stage with session := session, log := stage.log ++ requests })

/-! ## §1. Runs with an examiner. -/

namespace Rehearser

variable (r : Rehearser σ) (x : Examiner σ)

/-- Has a law checked in a freshly prepared session. -/
def runLawBy (p : Preparation) (law : Law) : Act σ Unit := do
  r.prepare p
  let outcome ← x.check law.expression
  Report.record law.place law.expression outcome

/-- Runs a group: its dialogues, then its laws. -/
def runGroupBy (p : Preparation) (group : Group) : Act σ Unit := do
  Report.showProgress
  r.prepare p
  Act.each r.runSteps group.dialogues
  Act.each (r.runLawBy x p) group.laws

/-- Runs the setup of a suite, then its groups if the setup had no problem. -/
def runSuiteBy (suite : Suite) : Act σ Unit := do
  let before ← Act.look (·.tally)
  match suite.setup with
  | some setup => r.runGroupBy x .reload setup
  | none => pure ()
  let after ← Act.look (·.tally)
  if before.errors = after.errors ∧ before.failures = after.failures then
    Act.each (r.runGroupBy x (.replay (suite.setup.getD []))) suite.groups

/-- Runs every suite and writes the final tally. -/
def runAllBy (suites : List Suite) : Act σ Tally := do
  Act.each (r.runSuiteBy x) suites
  Report.showTally
  Act.look (·.tally)

/-- Runs suites on a fresh stage whose tally knows how many examples there are. -/
def rehearseBy (session : σ) (console : Console) (suites : List Suite) :
    Except RunFault Tally × Stage σ :=
  r.runAllBy x suites
    { session := session, console := console, tally := .ofExamples (countExamples suites) }

end Rehearser

/-! ## §2. The law checker as an examiner. -/

/-- What an inquiry comes to in a session, what it asks, and where it leads. -/
def Inquiry.hold (s : Session σ) : Inquiry α → σ → α × List Event × σ
  | .done a, state => (a, [], state)
  | .ask expression next, state =>
      let (answer, state) := s.evaluate state expression
      let (a, requests, state) := hold s (next answer) state
      (a, .asked expression :: requests, state)

theorem Inquiry.requests_hold (s : Session σ) (inquiry : Inquiry α) :
    ∀ state, ∀ event ∈ (inquiry.hold s state).2.1, event.isRequest = true := by
  induction inquiry with
  | done a =>
    intro state event h
    exact absurd h List.not_mem_nil
  | ask expression next ih =>
    intro state event h
    rcases List.mem_cons.mp h with rfl | h
    · rfl
    · exact ih _ _ event h

/-- To converse is to hold an inquiry with the session at hand. -/
theorem Act.converse_eq (s : Session σ) (inquiry : Inquiry α) :
    ∀ stage, Act.converse s inquiry stage
      = (.ok (inquiry.hold s stage.session).1,
          { stage with
            session := (inquiry.hold s stage.session).2.2
            log := stage.log ++ (inquiry.hold s stage.session).2.1 }) := by
  induction inquiry with
  | done a =>
    intro stage
    show (Except.ok a, stage) = (Except.ok a, { stage with log := stage.log ++ [] })
    rw [List.append_nil]
  | ask expression next ih =>
    intro stage
    show Act.converse s (next _) _ = _
    rw [ih]
    show (Except.ok _, { stage with
      session := _
      log := stage.log ++ [Event.asked expression] ++ _ }) = _
    rw [List.append_assoc]
    rfl

/-- The law checker puts its laws to the session. -/
def LawChecker.examiner (l : LawChecker) (s : Session σ) : Examiner σ where
  examine state law := (l.check law).hold s state
  requests state law := (l.check law).requests_hold s state

namespace Rehearser

variable (r : Rehearser σ)

/-- The rehearser's own examiner. -/
def examiner : Examiner σ := r.laws.examiner r.session

theorem runLawBy_examiner (p : Preparation) : r.runLawBy r.examiner p = r.runLaw p := by
  funext law
  have hcheck : r.examiner.check law.expression
      = Act.converse r.session (r.laws.check law.expression) := by
    funext stage
    exact (Act.converse_eq r.session _ stage).symm
  unfold runLawBy runLaw
  rw [hcheck]

theorem runGroupBy_examiner (p : Preparation) : r.runGroupBy r.examiner p = r.runGroup p := by
  funext group
  unfold runGroupBy runGroup
  rw [r.runLawBy_examiner p]

theorem runSuiteBy_examiner : r.runSuiteBy r.examiner = r.runSuite := by
  funext suite
  unfold runSuiteBy runSuite
  rewrite [r.runGroupBy_examiner, r.runGroupBy_examiner]
  rfl

/-- **A run is the run with the rehearser's own examiner.** -/
theorem rehearseBy_examiner (session : σ) (console : Console) (suites : List Suite) :
    r.rehearseBy r.examiner session console suites = r.rehearse session console suites := by
  unfold rehearseBy rehearse runAllBy runAll
  rw [r.runSuiteBy_examiner]

end Rehearser

end Rehearsal
