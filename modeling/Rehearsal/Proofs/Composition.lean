/-
  Rehearsal.Proofs.Composition
  ──────────────────────────────────────
  **Properties of acts that are put together.**

  A report and a run are put together from a few basic acts.  A property that
  these have, and that an act behind an act has if both of them have it, is a
  property of the whole; the functions of a report and of a run are gone through
  here, once for all such properties.

    • `Report.Family` — the properties of everything that a report writes,
    • `Rehearser.Parts` — the properties of everything that a run does with its suites,
    • `Rehearser.Family` — the properties of the run as a whole.
-/
import Rehearsal.Run

namespace Rehearsal

variable {σ α β : Type}

/-- A property of acts, whatever they give. -/
abbrev Act.Quality (σ : Type) : Type 1 := ∀ {α : Type}, Act σ α → Prop

/-- Acts that are put together have the property if their parts do. -/
structure Act.Composes (Q : Act.Quality σ) : Prop where
  pure : ∀ {α : Type} (a : α), Q (Pure.pure a : Act σ α)
  bind : ∀ {α β : Type} {act : Act σ α} {next : α → Act σ β},
    Q act → (∀ a, Q (next a)) → Q (act >>= next)

theorem Act.Composes.each {Q : Act.Quality σ} (w : Act.Composes Q) {act : α → Act σ Unit}
    (h : ∀ a, Q (act a)) (as : List α) : Q (Act.each act as) := by
  induction as with
  | nil => exact w.pure ()
  | cons a as ih => exact w.bind (h a) fun _ => ih

/-- A fault of the first act is the fault of both. -/
theorem Act.bind_of_error {act : Act σ α} {next : α → Act σ β} {stage : Stage σ}
    {fault : RunFault} (h : (act stage).1 = .error fault) :
    (act >>= next) stage = (.error fault, (act stage).2) := by
  show Act.bind act next stage = _
  rw [Act.bind, ← Prod.eta (act stage), h]

/-- The second act goes on where the first one ended. -/
theorem Act.bind_of_ok {act : Act σ α} {next : α → Act σ β} {stage : Stage σ} {a : α}
    (h : (act stage).1 = .ok a) : (act >>= next) stage = next a (act stage).2 := by
  show Act.bind act next stage = _
  rw [Act.bind, ← Prod.eta (act stage), h]

/-- To reload is to pass on the state of the session and to note how it went. -/
theorem Act.reload_eq (s : Session σ) (stage : Stage σ) :
    Act.reload s stage = ((s.reload stage.session).1.mapError .session,
      { stage with
        session := (s.reload stage.session).2
        log := stage.log ++ [.reloaded (s.reload stage.session).1.isOk] }) := by
  unfold Act.reload
  cases s.reload stage.session with
  | mk result session => cases result <;> rfl

/-- The stage with another limit on its console. -/
def Stage.withRoom (stage : Stage σ) (room : Option Nat) : Stage σ :=
  { stage with console := { stage.console with room := room } }

/-! ## §1. Reports. -/

/-- A property of writing, of noting the width of the progress text, and of
looking at anything but the room that is left. -/
structure Report.Family (Q : Act.Quality σ) : Prop extends Act.Composes Q where
  look : ∀ {α : Type} (view : Stage σ → α),
    (∀ stage room, view (stage.withRoom room) = view stage) → Q (Act.look view)
  write : ∀ text, Q (Act.write text)
  settle : ∀ width, Q (Report.settle width)

namespace Report.Family

variable {Q : Act.Quality σ} (w : Report.Family Q)
include w

theorem writeCodes (codes : Text) : Q (Report.writeCodes codes) := by
  unfold Report.writeCodes
  refine w.bind (w.look _ fun _ _ => rfl) fun colored => ?_
  by_cases h : colored = true
  · simp only [h, if_true]
    exact w.write codes
  · simp only [h]
    exact w.pure ()

theorem overwrite (message : Text) (paint : Option Paint) :
    Q (Report.overwrite message paint) := by
  unfold Report.overwrite
  refine w.bind (w.look _ fun _ _ => rfl) fun pending => ?_
  -- The message and its padding follow the carriage return, if there is one.
  have plain : Q (do
      Act.write message
      Act.write (List.replicate (pending - Text.width message) ' ') : Act σ Unit) :=
    w.bind (w.write _) fun _ => w.write _
  have painted : ∀ paint : Paint, Q (do
      Report.writeCodes paint.codes
      Act.write message
      Report.writeCodes resetCode
      Act.write (List.replicate (pending - Text.width message) ' ') : Act σ Unit) := by
    intro paint
    exact w.bind (w.writeCodes _) fun _ => w.bind (w.write _) fun _ =>
      w.bind (w.writeCodes _) fun _ => w.write _
  by_cases h : pending > 0
  · simp only [h, if_true]
    refine w.bind (w.write _) fun _ => ?_
    cases paint with
    | some paint => exact painted paint
    | none => exact plain
  · simp only [h]
    cases paint with
    | some paint => exact painted paint
    | none => exact plain

theorem line (message : Text) (paint : Option Paint) : Q (Report.line message paint) :=
  w.bind (w.overwrite message paint) fun _ => w.bind (w.write _) fun _ => w.settle 0

theorem block (text : Text) : Q (Report.block text) :=
  w.each (fun message => w.line message none) _

theorem problem (head : Text) (paint : Paint) (text : Text) :
    Q (Report.problem head paint text) :=
  w.bind (w.line head _) fun _ => w.bind (w.block text) fun _ => w.line [] none

theorem tell (place : Place) (expression : Text) (outcome : Outcome) :
    Q (Report.tell place expression outcome) := by
  cases outcome with
  | success => exact w.pure ()
  | failure diagnostic => exact w.problem _ _ _
  | error message => exact w.problem _ _ _

theorem progress (message : Text) : Q (Report.progress message) := by
  unfold Report.progress
  refine w.bind (w.look _ fun _ _ => rfl) fun interactive => ?_
  by_cases h : interactive = true
  · simp only [h, if_true]
    exact w.bind (w.overwrite message none) fun _ => w.settle _
  · simp only [h]
    exact w.pure ()

theorem showProgress : Q (Report.showProgress (σ := σ)) :=
  w.bind (w.look _ fun _ _ => rfl) fun message => w.progress message

theorem showTally : Q (Report.showTally (σ := σ)) :=
  w.bind (w.look _ fun _ _ => rfl) fun message => w.line message none

end Report.Family

/-! ## §2. Runs. -/

/-- A property of the requests to a session, of what is reported in the course of
a run, and of looking at the tally. -/
structure Rehearser.Parts (s : Session σ) (Q : Act.Quality σ) : Prop extends Act.Composes Q where
  tally : Q (Act.look (·.tally))
  reload : Q (Act.reload s)
  ask : ∀ expression, Q (Act.ask s expression)
  record : ∀ place expression outcome, Q (Report.record place expression outcome)
  showProgress : Q Report.showProgress

namespace Rehearser.Parts

variable {r : Rehearser σ} {Q : Act.Quality σ} (w : Rehearser.Parts r.session Q)
include w

theorem converse (inquiry : Inquiry α) : Q (Act.converse r.session inquiry) := by
  induction inquiry with
  | done a => exact w.pure a
  | ask expression next ih => exact w.bind (w.ask expression) fun answer => ih answer

theorem prepare (p : Preparation) : Q (r.prepare p) :=
  w.bind w.reload fun _ => w.each (fun e => w.bind (w.ask e) fun _ => w.pure ()) _

theorem runSteps (steps : List Step) : Q (r.runSteps steps) := by
  induction steps with
  | nil => exact w.pure ()
  | cons step rest ih =>
    refine w.bind (w.converse _) fun result => ?_
    obtain ⟨expression, outcome⟩ := Rehearser.verdictRecord step result
    refine w.bind (w.record step.place expression outcome) fun _ => ?_
    by_cases h : outcome.isSuccess = true
    · simp only [h, if_true]
      exact ih
    · simp only [h]
      exact w.pure ()

theorem runLaw (p : Preparation) (law : Law) : Q (r.runLaw p law) :=
  w.bind (w.prepare p) fun _ => w.bind (w.converse _) fun _ => w.record _ _ _

theorem runGroup (p : Preparation) (g : Group) : Q (r.runGroup p g) :=
  w.bind w.showProgress fun _ => w.bind (w.prepare p) fun _ =>
    w.bind (w.each w.runSteps _) fun _ => w.each (w.runLaw p) _

theorem runSuite (suite : Suite) : Q (r.runSuite suite) := by
  unfold Rehearser.runSuite
  refine w.bind w.tally fun before => ?_
  -- Whether the groups are run is decided by what the tally shows now.
  have groups : Q (do
      let after ← Act.look (·.tally)
      if before.errors = after.errors ∧ before.failures = after.failures then
        Act.each (r.runGroup (.replay (suite.setup.getD []))) suite.groups : Act σ Unit) := by
    refine w.bind w.tally fun after => ?_
    by_cases h : before.errors = after.errors ∧ before.failures = after.failures
    · simp only [h, and_self, if_true]
      exact w.each (w.runGroup _) _
    · simp only [h, if_false]
      exact w.pure ()
  dsimp only
  split
  · exact w.bind (w.runGroup .reload _) fun _ => groups
  · exact groups

end Rehearser.Parts

/-- A property of the final tally, too. -/
structure Rehearser.Family (s : Session σ) (Q : Act.Quality σ) : Prop
    extends Rehearser.Parts s Q where
  showTally : Q Report.showTally

/-- **What the basic acts have, a run has.** -/
theorem Rehearser.Family.runAll {r : Rehearser σ} {Q : Act.Quality σ}
    (w : Rehearser.Family r.session Q) (suites : List Suite) : Q (r.runAll suites) :=
  w.bind (w.each w.runSuite suites) fun _ => w.bind w.showTally fun _ => w.tally

end Rehearsal
