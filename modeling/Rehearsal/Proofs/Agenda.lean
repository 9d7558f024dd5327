/-
  Rehearsal.Proofs.Agenda
  ──────────────────────────────────────
  **A run, one step at a time.**

  What a run leaves behind does not tell which stages it went through.  Here a
  run is an agenda: a list of tasks that is worked off from the front.  A task
  does one thing on the stage (a request, a piece of the report, a count) or is
  replaced by smaller tasks; a fault drops all tasks that are left.

    • `Task.perform` — what a task does, and the tasks it leaves behind,
    • `Rehearser.after` — the point that a run has come to after some steps,
    • `Rehearser.rehearse_reached` — the last point is what the run comes to.
-/
import Rehearsal.Proofs.Composition
import Rehearsal.Proofs.Examiner

namespace Rehearsal

variable {σ α β : Type}

/-! ## §1. Acts behind acts. -/

namespace Act

/-- It does not matter how acts are bracketed. -/
theorem bind_assoc {γ : Type} (act : Act σ α) (next : α → Act σ β) (last : β → Act σ γ) :
    (act >>= next) >>= last = act >>= fun a => next a >>= last := by
  funext stage
  show Act.bind (Act.bind act next) last stage = Act.bind act (fun a => Act.bind (next a) last) stage
  unfold Act.bind
  cases act stage with
  | mk result mid => cases result <;> rfl

/-- Two acts that end well end well one by one. -/
theorem ok_bind {act : Act σ α} {next : α → Act σ β} {before after : Stage σ} {b : β}
    (h : (act >>= next) before = (.ok b, after)) :
    ∃ a mid, act before = (.ok a, mid) ∧ next a mid = (.ok b, after) := by
  change Act.bind act next before = _ at h
  unfold Act.bind at h
  cases hact : act before with
  | mk result mid =>
    rw [hact] at h
    cases result with
    | error fault => cases h
    | ok a => exact ⟨a, mid, rfl, h⟩

/-- An act whose result is only replaced. -/
theorem map_apply (act : Act σ α) (f : α → β) (stage : Stage σ) :
    (act >>= fun a => pure (f a)) stage = ((act stage).1.map f, (act stage).2) := by
  show Act.bind act (fun a => Act.pure (f a)) stage = _
  unfold Act.bind
  rcases act stage with ⟨fault | a, mid⟩ <;> rfl

/-- Nothing behind an act leaves it as it is. -/
theorem bind_nothing (act : Act σ Unit) : (act >>= fun _ => pure ()) = act := by
  funext stage
  show Act.bind act (fun _ => Act.pure ()) stage = act stage
  unfold Act.bind
  cases act stage with
  | mk result mid => cases result <;> rfl

end Act

/-! ## §2. Tasks. -/

/-- Something that is still to be done in a run. -/
inductive Task where
  | suite (suite : Suite)
  /-- Runs the groups of a suite if the tally shows no problem since `before`. -/
  | groups (suite : Suite) (before : Tally)
  | group (p : Preparation) (group : Group)
  | progress
  | reload
  /-- Evaluates an expression without looking at the answer. -/
  | replay (expression : Text)
  | dialogue (steps : List Step)
  /-- Goes on with the check of a step; `rest` are the steps behind it. -/
  | check (step : Step) (rest : List Step) (inquiry : Inquiry (Except Blame Verdict))
  | law (p : Preparation) (law : Law)
  | examine (law : Law)
  /-- Writes what is to be told of an outcome. -/
  | tell (entry : Record)
  /-- Counts an outcome and keeps it. -/
  | enter (entry : Record)
  /-- Writes the final tally. -/
  | close

/-- The tasks of a preparation. -/
def Preparation.tasks (p : Preparation) : List Task := .reload :: p.expressions.map .replay

/-- Counts an outcome and keeps it with the others. -/
def Report.enter (entry : Record) : Act σ Unit := do
  count entry.outcome.delta
  Act.change fun stage => { stage with records := stage.records ++ [entry] }

/-- What is left to do with an outcome. -/
def Task.recording (entry : Record) : List Task := [.tell entry, .enter entry]

/-- What a task does; the result is what takes its place. -/
def Task.perform (r : Rehearser σ) (x : Examiner σ) : Task → Act σ (List Task)
  | .suite s => do
      let before ← Act.look (·.tally)
      return s.setup.toList.map (.group .reload) ++ [.groups s before]
  | .groups s before => do
      let after ← Act.look (·.tally)
      return if before.errors = after.errors ∧ before.failures = after.failures then
          s.groups.map (.group (.replay (s.setup.getD [])))
        else []
  | .group p g => return .progress :: (p.tasks ++ (g.dialogues.map .dialogue ++ g.laws.map (.law p)))
  | .progress => do
      Report.showProgress
      return []
  | .reload => do
      Act.reload r.session
      return []
  | .replay expression => do
      let _ ← Act.ask r.session expression
      return []
  | .dialogue [] => return []
  | .dialogue (step :: rest) => return [.check step rest (r.comparison.check step).run]
  | .check step rest (.done result) =>
      let (expression, outcome) := Rehearser.verdictRecord step result
      return Task.recording ⟨step.place, expression, outcome⟩
        ++ if outcome.isSuccess then [.dialogue rest] else []
  | .check step rest (.ask expression next) => do
      let answer ← Act.ask r.session expression
      return [.check step rest (next answer)]
  | .law p l => return p.tasks ++ [.examine l]
  | .examine l => do
      let outcome ← x.check l.expression
      return Task.recording ⟨l.place, l.expression, outcome⟩
  | .tell entry => do
      Report.tell entry.place entry.expression entry.outcome
      return []
  | .enter entry => do
      Report.enter entry
      return []
  | .close => do
      Report.showTally
      return []

theorem Task.perform_tell (r : Rehearser σ) (x : Examiner σ) (entry : Record) (stage : Stage σ) :
    (Task.tell entry).perform r x stage
      = ((Report.tell entry.place entry.expression entry.outcome stage).1.map fun _ => [],
        (Report.tell entry.place entry.expression entry.outcome stage).2) :=
  Act.map_apply _ _ stage

/-- A property of all that tasks do but for telling and entering outcomes. -/
structure Task.Family (r : Rehearser σ) (x : Examiner σ) (Q : Act.Quality σ) : Prop
    extends Act.Composes Q where
  tally : Q (Act.look (·.tally))
  reload : Q (Act.reload r.session)
  ask : ∀ expression, Q (Act.ask r.session expression)
  check : ∀ law, Q (x.check law)
  showProgress : Q Report.showProgress
  showTally : Q Report.showTally

/-- **What the parts have, a task has.** -/
theorem Task.Family.perform {r : Rehearser σ} {x : Examiner σ} {Q : Act.Quality σ}
    (w : Task.Family r x Q) (t : Task)
    (tell : ∀ entry, t = .tell entry → Q (Report.tell entry.place entry.expression entry.outcome))
    (enter : ∀ entry, t = .enter entry → Q (Report.enter entry)) : Q (t.perform r x) := by
  cases t with
  | suite s => exact w.bind w.tally fun _ => w.pure _
  | groups s before => exact w.bind w.tally fun _ => w.pure _
  | group p g => exact w.pure _
  | progress => exact w.bind w.showProgress fun _ => w.pure _
  | reload => exact w.bind w.reload fun _ => w.pure _
  | replay expression => exact w.bind (w.ask _) fun _ => w.pure _
  | dialogue steps => cases steps <;> exact w.pure _
  | check step rest inquiry =>
    cases inquiry with
    | done result => exact w.pure _
    | ask expression next => exact w.bind (w.ask _) fun _ => w.pure _
  | law p l => exact w.pure _
  | examine l => exact w.bind (w.check _) fun _ => w.pure _
  | tell entry => exact w.bind (tell entry rfl) fun _ => w.pure _
  | enter entry => exact w.bind (enter entry rfl) fun _ => w.pure _
  | close => exact w.bind w.showTally fun _ => w.pure _

/-! ## §3. Points of a run. -/

/-- How far a run has come. -/
structure Point (σ : Type) where
  /-- What is left to do, the next task first. -/
  todo : List Task
  /-- What ended the run, if it has ended early. -/
  fault : Option RunFault := none
  stage : Stage σ

/-- The point behind an act: its result decides what is left to do, and a fault
leaves nothing. -/
def Point.behind (done : Except RunFault α × Stage σ) (todo : α → List Task) : Point σ :=
  match done with
  | (.ok a, stage) => { todo := todo a, stage := stage }
  | (.error fault, stage) => { todo := [], fault := some fault, stage := stage }

theorem Point.behind_stage (done : Except RunFault α × Stage σ) (todo : α → List Task) :
    (Point.behind done todo).stage = done.2 := by
  obtain ⟨result, stage⟩ := done
  cases result <;> rfl

/-- Behind an act that leaves no tasks, the run is over. -/
theorem Point.behind_over (done : Except RunFault α × Stage σ) :
    (Point.behind done fun _ => []).todo = [] := by
  obtain ⟨result, stage⟩ := done
  cases result <;> rfl

/-- The point where a run of suites starts. -/
def Point.start (session : σ) (console : Console) (suites : List Suite) : Point σ where
  todo := suites.map .suite ++ [.close]
  stage :=
    { session := session, console := console, tally := .ofExamples (countExamples suites) }

namespace Rehearser

variable (r : Rehearser σ) (x : Examiner σ)

/-- One step of a run: the first task is performed. -/
def advance (point : Point σ) : Point σ :=
  match point.todo with
  | [] => point
  | task :: rest => .behind (task.perform r x point.stage) (· ++ rest)

/-- The point after some steps; a run that is over stays where it is. -/
def after : Nat → Point σ → Point σ
  | 0, point => point
  | k + 1, point => r.advance x (after k point)

theorem after_add (j k : Nat) (point : Point σ) :
    r.after x (j + k) point = r.after x k (r.after x j point) := by
  induction k with
  | zero => rfl
  | succ k ih =>
    show r.advance x (r.after x (j + k) point) = r.advance x (r.after x k (r.after x j point))
    rw [ih]

/-- **What a step keeps, a run keeps.** -/
theorem after_keeps {P : Point σ → Prop} (step : ∀ point, P point → P (r.advance x point))
    {point : Point σ} (h : P point) (k : Nat) : P (r.after x k point) := by
  induction k with
  | zero => exact h
  | succ k ih => exact step _ ih

/-- A run that is over stays where it is. -/
theorem after_of_over {point : Point σ} (h : point.todo = []) (k : Nat) :
    r.after x k point = point := by
  induction k with
  | zero => rfl
  | succ k ih =>
    show r.advance x (r.after x k point) = point
    rw [ih]
    unfold advance
    rw [h]

/-! ## §4. Tasks that do what an act does. -/

/-- In some steps, the one point leads to the other. -/
def Leads (before after : Point σ) : Prop := ∃ k, r.after x k before = after

theorem Leads.trans {r : Rehearser σ} {x : Examiner σ} {a b c : Point σ} (h : r.Leads x a b) (h' : r.Leads x b c) :
    r.Leads x a c := by
  obtain ⟨j, rfl⟩ := h
  obtain ⟨k, rfl⟩ := h'
  exact ⟨j + k, r.after_add x j k a⟩

/-- A run that has come to its end stays there. -/
theorem Leads.stays {r : Rehearser σ} {x : Examiner σ} {a b : Point σ} (h : r.Leads x a b)
    (hb : b.todo = []) : ∃ n, ∀ k, r.after x (n + k) a = b := by
  obtain ⟨n, rfl⟩ := h
  exact ⟨n, fun k => by rw [r.after_add, r.after_of_over x hb]⟩

/-- A run comes to one end. -/
theorem Leads.unique {r : Rehearser σ} {x : Examiner σ} {a b b' : Point σ} (h : r.Leads x a b)
    (h' : r.Leads x a b') (hb : b.todo = []) (hb' : b'.todo = []) : b = b' := by
  obtain ⟨j, rfl⟩ := h
  obtain ⟨k, rfl⟩ := h'
  rw [← r.after_of_over x hb k, ← r.after_add, Nat.add_comm, r.after_add, r.after_of_over x hb' j]

/-- Working off the tasks comes to what the act comes to, whatever is left to do
behind them. -/
def Does (todo : List Task) (act : Act σ Unit) : Prop :=
  ∀ rest stage, r.Leads x { todo := todo ++ rest, stage := stage } (.behind (act stage) fun _ => rest)

namespace Does

variable {r x}

theorem nil : r.Does x [] (pure ()) := fun _ _ => ⟨0, rfl⟩

/-- Tasks behind tasks are an act behind an act. -/
theorem append {a b : List Task} {act next : Act σ Unit} (ha : r.Does x a act)
    (hb : r.Does x b next) : r.Does x (a ++ b) (act >>= fun _ => next) := by
  intro rest stage
  have h := ha (b ++ rest) stage
  rw [← List.append_assoc] at h
  show r.Leads x _ (.behind (Act.bind act (fun _ => next) stage) fun _ => rest)
  unfold Act.bind
  cases hact : act stage with
  | mk result mid =>
    rw [hact] at h
    cases result with
    | error fault => exact h
    | ok u => exact h.trans (hb rest mid)

/-- A task that leaves tasks: what these do is put behind it. -/
theorem task {t : Task} {first : Act σ α} {more : α → List Task} {next : α → Act σ Unit}
    (h : t.perform r x = first >>= fun a => pure (more a)) (hn : ∀ a, r.Does x (more a) (next a)) :
    r.Does x [t] (first >>= next) := by
  intro rest stage
  have hstep : r.Leads x { todo := [t] ++ rest, stage := stage }
      (.behind (Act.bind first (fun a => Act.pure (more a)) stage) (· ++ rest)) := by
    refine ⟨1, ?_⟩
    show Point.behind (t.perform r x stage) (· ++ rest) = _
    rw [h]
    rfl
  show r.Leads x _ (.behind (Act.bind first next stage) fun _ => rest)
  unfold Act.bind at hstep ⊢
  cases hfirst : first stage with
  | mk result mid =>
    rw [hfirst] at hstep
    cases result with
    | error fault => exact hstep
    | ok a => exact hstep.trans (hn a rest mid)

/-- A task that leaves nothing. -/
theorem last {t : Task} {act : Act σ α} (h : t.perform r x = act >>= fun _ => pure []) :
    r.Does x [t] (act >>= fun _ => pure ()) :=
  task h fun _ => nil

/-- A task that is only replaced by others. -/
theorem replaced {t : Task} {more : List Task} {act : Act σ Unit} (h : t.perform r x = pure more)
    (hmore : r.Does x more act) : r.Does x [t] act := by
  have hfirst : t.perform r x = (pure () : Act σ Unit) >>= fun _ => pure more := h
  show r.Does x [t] ((pure () : Act σ Unit) >>= fun _ => act)
  exact task hfirst fun _ => hmore

theorem each {t : α → Task} {act : α → Act σ Unit} (h : ∀ a, r.Does x [t a] (act a)) (as : List α) :
    r.Does x (as.map t) (Act.each act as) := by
  induction as with
  | nil => exact nil
  | cons a as ih => exact append (h a) ih

end Does

/-! ## §5. The functions of a run. -/

theorem does_progress : r.Does x [.progress] Report.showProgress :=
  Act.bind_nothing Report.showProgress ▸ Does.last rfl

theorem does_prepare (p : Preparation) : r.Does x p.tasks (r.prepare p) := by
  have hreload : r.Does x [.reload] (Act.reload r.session) :=
    Act.bind_nothing (Act.reload r.session) ▸ Does.last rfl
  exact Does.append hreload (Does.each (fun _ => Does.last rfl) p.expressions)

theorem does_recording (entry : Record) :
    r.Does x (Task.recording entry) (Report.record entry.place entry.expression entry.outcome) := by
  have htell : r.Does x [.tell entry] (Report.tell entry.place entry.expression entry.outcome) :=
    Act.bind_nothing (Report.tell _ _ _) ▸ Does.last rfl
  have henter : r.Does x [.enter entry] (Report.enter entry) :=
    Act.bind_nothing (Report.enter entry) ▸ Does.last rfl
  exact Does.append htell henter

/-- The check of a step, from any question on, and what follows it. -/
theorem does_check (step : Step) (rest : List Step)
    (hrest : r.Does x [.dialogue rest] (r.runSteps rest))
    (inquiry : Inquiry (Except Blame Verdict)) :
    r.Does x [.check step rest inquiry] (do
      let result ← Act.converse r.session inquiry
      let (expression, outcome) := verdictRecord step result
      Report.record step.place expression outcome
      if outcome.isSuccess then r.runSteps rest) := by
  induction inquiry with
  | done result =>
    -- Behind the check: its outcome is recorded, and only a success goes on.
    have hdone : ∀ expression outcome, r.Does x
        (Task.recording ⟨step.place, expression, outcome⟩
          ++ if outcome.isSuccess then [.dialogue rest] else [])
        (Report.record step.place expression outcome >>= fun _ =>
          if outcome.isSuccess then r.runSteps rest else pure ()) := by
      intro expression outcome
      refine Does.append (r.does_recording x ⟨step.place, expression, outcome⟩) ?_
      cases outcome with
      | success => exact hrest
      | failure diagnostic => exact Does.nil
      | error message => exact Does.nil
    exact Does.replaced rfl (hdone _ _)
  | ask expression next ih => exact Act.bind_assoc _ _ _ ▸ Does.task rfl ih

theorem does_dialogue (steps : List Step) : r.Does x [.dialogue steps] (r.runSteps steps) := by
  induction steps with
  | nil => exact Does.replaced rfl Does.nil
  | cons step rest ih => exact Does.replaced rfl (r.does_check x step rest ih _)

theorem does_examine (law : Law) :
    r.Does x [.examine law] (do
      let outcome ← x.check law.expression
      Report.record law.place law.expression outcome) :=
  Does.task rfl fun outcome => r.does_recording x ⟨law.place, law.expression, outcome⟩

theorem does_law (p : Preparation) (law : Law) : r.Does x [.law p law] (r.runLawBy x p law) :=
  Does.replaced rfl (Does.append (r.does_prepare x p) (r.does_examine x law))

theorem does_group (p : Preparation) (g : Group) : r.Does x [.group p g] (r.runGroupBy x p g) :=
  Does.replaced rfl (Does.append (r.does_progress x) (Does.append (r.does_prepare x p)
    (Does.append (Does.each (r.does_dialogue x) g.dialogues) (Does.each (r.does_law x p) g.laws))))

theorem does_groups (suite : Suite) (before : Tally) :
    r.Does x [.groups suite before] (do
      let after ← Act.look (·.tally)
      if before.errors = after.errors ∧ before.failures = after.failures then
        Act.each (r.runGroupBy x (.replay (suite.setup.getD []))) suite.groups) := by
  refine Does.task rfl fun after => ?_
  split
  · exact Does.each (r.does_group x _) suite.groups
  · exact Does.nil

theorem does_suite (suite : Suite) : r.Does x [.suite suite] (r.runSuiteBy x suite) := by
  refine Does.task rfl fun before => ?_
  cases hsetup : suite.setup with
  | none =>
    have h := Does.append Does.nil (r.does_groups x suite before)
    rw [hsetup] at h
    exact h
  | some setup =>
    have h := Does.append (r.does_group x .reload setup) (r.does_groups x suite before)
    rw [hsetup] at h
    exact h

/-! ## §6. A whole run. -/

/-- **The agenda comes to what the run comes to:** after some steps nothing is
left to do, and the stage and the fault are those of the run. -/
theorem rehearse_reached (session : σ) (console : Console) (suites : List Suite) :
    r.Leads x (.start session console suites)
      (.behind (r.rehearseBy x session console suites) fun _ => []) := by
  have hclose : r.Does x [.close] Report.showTally :=
    Act.bind_nothing Report.showTally ▸ Does.last rfl
  have h := Does.append (Does.each (r.does_suite x) suites) hclose []
    (Point.start session console suites).stage
  rw [List.append_nil] at h
  -- Behind the last task, a run only looks at the tally.
  have hlook : ∀ (act : Act σ Unit) stage,
      Point.behind ((act >>= fun _ => Act.look (·.tally)) stage) (fun _ => [])
        = Point.behind (act stage) (fun _ => []) := by
    intro act stage
    show Point.behind (Act.bind act (fun _ => Act.look (·.tally)) stage) _ = _
    unfold Act.bind
    cases act stage with
    | mk result mid => cases result <;> rfl
  rw [← hlook, Act.bind_assoc] at h
  exact h

end Rehearser

end Rehearsal
