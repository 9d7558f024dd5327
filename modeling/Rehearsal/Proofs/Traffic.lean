/-
  Rehearsal.Proofs.Traffic
  ──────────────────────────────────────
  **The requests of a whole run.**

  A run on a console that takes everything sends exactly the requests of a
  course of its suites, in order, and with the session at hand there is only one
  such course.  If a reload fails, it is the last request and its fault is what
  the run comes to.
-/
import Rehearsal.Proofs.Simulation
import Rehearsal.Script

namespace Rehearsal

variable {σ : Type} {s : Session σ}

/-! ## §1. How a run ends. -/

/-- The end of a run, seen from its course: the final tally, or the fault of the
reload that failed. -/
def Rehearser.endingOf (ending : Except SessionFault Unit) (tally : Tally) :
    Except RunFault Tally :=
  match ending with
  | .ok () => .ok tally
  | .error fault => .error (.session fault)

/-- Showing the final tally moves nothing, and the tally is what the run comes to. -/
theorem Rehearser.showTally_last (mid : Stage σ)
    (hreport : ((do Report.showTally; Act.look (·.tally) : Act σ Tally) mid).1 ≠ .error .report) :
    ∃ after, (do Report.showTally; Act.look (·.tally) : Act σ Tally) mid = (.ok after.tally, after)
      ∧ Unmoved mid after := by
  obtain ⟨unmoved, faults⟩ := Frame.unmoved_writes.showTally mid
  change (Act.bind _ _ mid).1 ≠ _ at hreport
  show ∃ after, Act.bind _ _ mid = _ ∧ _
  unfold Act.bind at hreport ⊢
  cases hr : Report.showTally mid with
  | mk result after =>
    rw [hr] at unmoved faults hreport
    cases result with
    | ok u => exact ⟨after, rfl, unmoved⟩
    | error fault =>
      have hfault : fault = .report := faults fault rfl
      exact absurd (congrArg Except.error hfault) hreport

/-! ## §2. The course of a run. -/

/-- **Every run that does not fail to write goes through a course of its suites.** -/
theorem Rehearser.runAll_traced (r : Rehearser σ) (suites : List Suite) (before : Stage σ)
    (hreport : (r.runAll suites before).1 ≠ .error .report) :
    ∃ moves ending, RunCourse r.comparison r.laws suites moves ending
      ∧ (r.runAll suites before).1 = Rehearser.endingOf ending (r.runAll suites before).2.tally
      ∧ Traced r.session moves before (r.runAll suites before).2 := by
  have hsuites := Follows.each r.runSuite_follows suites
  change (Act.bind _ _ before).1 ≠ _ at hreport
  show ∃ moves ending, _ ∧ (Act.bind _ _ before).1 = Rehearser.endingOf ending
    (Act.bind _ _ before).2.tally ∧ Traced r.session moves before (Act.bind _ _ before).2
  unfold Act.bind at hreport ⊢
  cases hr : Act.each r.runSuite suites before with
  | mk result mid =>
    rw [hr] at hreport
    cases result with
    | error fault =>
      obtain ⟨moves, sessionFault, rfl, h, htraced⟩ := hsuites.of_error hr (by simpa using hreport)
      exact ⟨moves, _, h, rfl, htraced⟩
    | ok u =>
      obtain ⟨moves, h, htraced⟩ := hsuites.of_ok hr
      obtain ⟨after, hafter, unmoved⟩ := Rehearser.showTally_last mid hreport
      dsimp only
      rw [hafter]
      refine ⟨moves, .ok (), h, rfl, ?_⟩
      have htrans := htraced.trans (Traced.of_unmoved unmoved)
      rwa [List.append_nil] at htrans

/-- A run on an unlimited console never fails to write. -/
theorem Rehearser.runAll_ne_report (r : Rehearser σ) (suites : List Suite) (before : Stage σ)
    (hroom : before.console.room = none) : (r.runAll suites before).1 ≠ .error .report := by
  intro h
  exact ((Frame.unlimited_runs r.session).runAll suites before).2 .report h hroom rfl

/-! ## §3. The requests of a run. -/

/-- **Session traffic of a whole run.**  What the session is asked is what the
one course asks that fits its answers; the records, the end of the run and the
state of the session come from the same course. -/
theorem Rehearser.rehearse_requests (r : Rehearser σ) (session : σ) (console : Console)
    (suites : List Suite) (hroom : console.room = none) :
    ∃ moves ending,
      RunCourse r.comparison r.laws suites moves ending
      ∧ r.session.Plays session moves (r.rehearse session console suites).2.session
      ∧ (r.rehearse session console suites).2.log.filter Event.isRequest = Move.requests moves
      ∧ (r.rehearse session console suites).2.records = Move.records moves
      ∧ (r.rehearse session console suites).1
        = Rehearser.endingOf ending (r.rehearse session console suites).2.tally
      ∧ Move.StopsAt moves ending
      ∧ ∀ moves' ending' after, RunCourse r.comparison r.laws suites moves' ending' →
          r.session.Plays session moves' after → moves' = moves ∧ ending' = ending := by
  unfold Rehearser.rehearse
  have hreport := r.runAll_ne_report suites
    { session := session, console := console, tally := .ofExamples (countExamples suites) } hroom
  obtain ⟨moves, ending, hcourse, hend, htraced⟩ := r.runAll_traced suites _ hreport
  refine ⟨moves, ending, hcourse, htraced.plays, ?_, ?_, hend, hcourse.stopsAt, ?_⟩
  · rw [htraced.requests]
    rfl
  · rw [htraced.records]
    rfl
  · intro moves' ending' after hcourse' hplays'
    exact RunCourse.determined suites hcourse' hcourse hplays' htraced.plays

/-- A session with a few fixed answers, compared line by line. -/
def sampleRehearser : Rehearser ScriptState where
  session := Script.session
    { answers := [("1 + 1", [.ok "2"]), ("2 + 2", [.ok "5"]), ("prop", [.ok "True"])] }
  laws := ⟨"\x7bexpression\x7d", none, "\x7bexpression\x7d"⟩
  comparison := { strategy := .lineExact }

/-- A setup, a dialogue that is cut after its second step, and a law. -/
def sampleSuites : List Suite :=
  [⟨"A", some [.dialogue [⟨.line "a" 1, "let x = 1", []⟩]],
    [[.dialogue [⟨.line "a" 2, "1 + 1", ["2"]⟩, ⟨.line "a" 3, "2 + 2", ["4"]⟩,
        ⟨.line "a" 4, "3", []⟩],
      .law ⟨.line "a" 5, "prop"⟩]]⟩]

/-- The setup comes first for itself, then before the group and before its law;
the third step of the dialogue is not sent. -/
theorem rehearse_requests_sample :
    ∃ moves ending,
      RunCourse sampleRehearser.comparison sampleRehearser.laws sampleSuites moves ending
      ∧ Move.requests moves =
        [.reloaded true, .asked "let x = 1", .reloaded true, .asked "let x = 1", .asked "1 + 1",
          .asked "2 + 2", .reloaded true, .asked "let x = 1", .asked "prop"] := by
  obtain ⟨moves, ending, hcourse, -, hrequests, -⟩ :=
    sampleRehearser.rehearse_requests {} {} sampleSuites rfl
  refine ⟨moves, ending, hcourse, ?_⟩
  rw [← hrequests]
  decide +kernel

end Rehearsal
