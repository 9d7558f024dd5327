/-
  Rehearsal.Proofs.Ledger
  ──────────────────────────────────────
  **The counters agree at every point of a run.**

  At each point of a run the tally is the number of examples and the counts of
  what was recorded so far, and what was recorded and what is left to do together
  do not exceed the number of examples.  No task but the one that enters an
  outcome touches the tally, and the tasks that a task leaves behind can record no
  more than the task itself; so a step keeps both, wherever the run stands and
  whatever ends it.
-/
import Rehearsal.Proofs.Agenda
import Rehearsal.Proofs.Coverage

namespace Rehearsal

variable {σ α β : Type}

/-! ## §1. Counting successes. -/

/-- The number of successes among some records. -/
def successCount (entries : List Record) : Nat := entries.countP (·.outcome.isSuccess)

/-- The tries of some records are their errors, failures and successes. -/
theorem Tally.tried_ofRecords_eq (entries : List Record) :
    (ofRecords entries).tried
      = (ofRecords entries).errors + (ofRecords entries).failures + successCount entries := by
  induction entries with
  | nil => rfl
  | cons entry entries ih =>
    unfold successCount at ih ⊢
    rw [ofRecords_cons, tried_add, errors_add, failures_add, ih, List.countP_cons]
    cases entry.outcome <;> simp [Outcome.delta, Outcome.isSuccess] <;> omega

/-! ## §2. What is left to record. -/

namespace Task

/-- The greatest number of outcomes that a task can still record. -/
def size : Task → Nat
  | suite s => s.size
  | groups s _ => total Group.size s.groups
  | group _ g => g.size
  | dialogue steps => steps.length
  | check _ rest _ => rest.length + 1
  | law _ _ => 1
  | examine _ => 1
  | enter _ => 1
  | progress | reload | replay _ | tell _ | close => 0

end Task

/-- A total over a list of images. -/
theorem total_map (f : β → Nat) (g : α → β) (as : List α) :
    total f (as.map g) = total (fun a => f (g a)) as := by
  induction as with
  | nil => rfl
  | cons a as ih =>
    show f (g a) + total f (as.map g) = f (g a) + total (fun a => f (g a)) as
    rw [ih]

theorem total_zero (as : List α) : total (fun _ => 0) as = 0 := by
  induction as with
  | nil => rfl
  | cons a as ih => exact (Nat.zero_add _).trans ih

/-- A preparation records nothing. -/
theorem Preparation.size_tasks (p : Preparation) : total Task.size p.tasks = 0 := by
  show 0 + total Task.size (p.expressions.map .replay) = 0
  rw [Nat.zero_add, total_map]
  exact total_zero p.expressions

/-- Whatever the act gives as its result has the property. -/
def Act.Yields (act : Act σ α) (P : α → Prop) : Prop :=
  ∀ stage a, (act stage).1 = .ok a → P a

namespace Act.Yields

variable {P : α → Prop}

theorem pure {a : α} (h : P a) : Act.Yields (Pure.pure a : Act σ α) P := by
  intro stage b hb
  rw [← Except.ok.inj hb]
  exact h

theorem bind {act : Act σ β} {next : β → Act σ α} (h : ∀ b, (next b).Yields P) :
    (act >>= next).Yields P := by
  intro stage a ha
  change (Act.bind act next stage).1 = _ at ha
  unfold Act.bind at ha
  rcases hact : act stage with ⟨fault | b, mid⟩ <;> rw [hact] at ha
  · exact absurd ha (by simp)
  · exact h b mid a ha

end Act.Yields

/-- **A task leaves no more to record than it stood for.** -/
theorem Task.perform_size (r : Rehearser σ) (x : Examiner σ) (t : Task) :
    (t.perform r x).Yields fun more => total Task.size more ≤ t.size := by
  cases t with
  | suite s =>
    refine .bind fun before => .pure ?_
    rw [total_append, total_map]
    show _ + (total Group.size s.groups + 0) ≤ total Group.size (s.setup.toList ++ s.groups)
    rw [total_append]
    exact Nat.le_refl _
  | groups s before =>
    refine .bind fun after => .pure ?_
    split
    · rw [total_map]
      exact Nat.le_refl _
    · exact Nat.zero_le _
  | group p g =>
    refine .pure ?_
    show 0 + total Task.size (p.tasks ++ _) ≤ g.size
    rw [total_append, total_append, total_map, total_map, p.size_tasks, Group.size_eq]
    show 0 + (0 + (total List.length g.dialogues + total (fun _ => 1) g.laws)) ≤ _
    omega
  | progress => exact .bind fun _ => .pure (Nat.le_refl _)
  | reload => exact .bind fun _ => .pure (Nat.le_refl _)
  | replay expression => exact .bind fun _ => .pure (Nat.le_refl _)
  | dialogue steps =>
    cases steps with
    | nil => exact .pure (Nat.le_refl _)
    | cons step rest => exact .pure (Nat.le_refl _)
  | check step rest inquiry =>
    cases inquiry with
    | done result =>
      -- The steps behind go on only after a success.
      have hrest : ∀ goesOn : Bool,
          total size (if goesOn then [dialogue rest] else []) ≤ rest.length := by
        intro goesOn
        cases goesOn with
        | true => exact Nat.le_refl _
        | false => exact Nat.zero_le _
      refine .pure ?_
      rw [total_append]
      calc 0 + (1 + 0) + _ ≤ 0 + (1 + 0) + rest.length := Nat.add_le_add_left (hrest _) _
        _ = rest.length + 1 := Nat.add_comm _ _
    | ask expression next => exact .bind fun _ => .pure (Nat.le_refl _)
  | law p l =>
    refine .pure ?_
    rw [total_append, p.size_tasks]
    exact Nat.le_refl _
  | examine l => exact .bind fun _ => .pure (Nat.le_refl _)
  | tell entry => exact .bind fun _ => .pure (Nat.le_refl _)
  | enter entry => exact .bind fun _ => .pure (Nat.zero_le _)
  | close => exact .bind fun _ => .pure (Nat.le_refl _)

/-! ## §3. What touches the tally. -/

/-- The frame of acts that leave the tally and the records alone. -/
def Frame.uncounted (σ : Type) : Frame σ where
  Kept before after := after.tally = before.tally ∧ after.records = before.records
  Allowed _ _ := True
  refl _ := ⟨rfl, rfl⟩
  trans h h' := ⟨h'.1.trans h.1, h'.2.trans h.2⟩
  back _ h := h

/-- Writing is no counting. -/
theorem Frame.uncounted_of_unmoved {act : Act σ α} (h : (Frame.unmoved σ).Holds act) :
    (Frame.uncounted σ).Holds act :=
  fun before => ⟨⟨(h before).1.tally, (h before).1.records⟩, fun _ _ => trivial⟩

theorem Frame.uncounted_ask (s : Session σ) (expression : Text) :
    (Frame.uncounted σ).Holds (Act.ask s expression) :=
  fun _ => ⟨⟨rfl, rfl⟩, fun _ _ => trivial⟩

theorem Frame.uncounted_reload (s : Session σ) : (Frame.uncounted σ).Holds (Act.reload s) := by
  intro before
  rw [Act.reload_eq]
  exact ⟨⟨rfl, rfl⟩, fun _ _ => trivial⟩

theorem Frame.uncounted_check (x : Examiner σ) (law : Text) :
    (Frame.uncounted σ).Holds (x.check law) :=
  fun _ => ⟨⟨rfl, rfl⟩, fun _ _ => trivial⟩

/-- **Only entering an outcome counts.** -/
theorem Task.perform_uncounted (r : Rehearser σ) (x : Examiner σ) (t : Task)
    (h : ∀ entry, t ≠ .enter entry) : (Frame.uncounted σ).Holds (t.perform r x) := by
  have family : Task.Family r x (Frame.uncounted σ).Holds := {
    toComposes := Frame.composes _
    tally := .look _
    reload := Frame.uncounted_reload r.session
    ask := Frame.uncounted_ask r.session
    check := Frame.uncounted_check x
    showProgress := Frame.uncounted_of_unmoved Frame.unmoved_writes.showProgress
    showTally := Frame.uncounted_of_unmoved Frame.unmoved_writes.showTally }
  refine family.perform t (fun entry _ => ?_) fun entry heq => absurd heq (h entry)
  exact Frame.uncounted_of_unmoved (Frame.unmoved_writes.tell _ _ _)

/-! ## §4. The invariant. -/

/-- The books of a run with `n` examples: the tally holds what is recorded, and
there is room for all that is left. -/
structure Point.Kept (n : Nat) (point : Point σ) : Prop where
  tally : point.stage.tally = .ofExamples n + .ofRecords point.stage.records
  room : point.stage.records.length + total Task.size point.todo ≤ n

/-- **One step keeps the books.** -/
theorem Rehearser.advance_kept (r : Rehearser σ) (x : Examiner σ) (n : Nat) (point : Point σ)
    (h : point.Kept n) : (r.advance x point).Kept n := by
  obtain ⟨todo, fault, stage⟩ := point
  cases todo with
  | nil => exact h
  | cons t rest =>
    obtain ⟨htally, hroom⟩ := h
    change stage.records.length + (t.size + total Task.size rest) ≤ n at hroom
    show (Point.behind (t.perform r x stage) (· ++ rest)).Kept n
    by_cases henter : ∃ entry, t = .enter entry
    · obtain ⟨entry, rfl⟩ := henter
      refine ⟨?_, ?_⟩
      · show stage.tally + entry.outcome.delta = _ + Tally.ofRecords (stage.records ++ [entry])
        rw [Tally.ofRecords_append, Tally.ofRecords_cons, Tally.ofRecords_nil, Tally.add_zero,
          ← Tally.add_assoc]
        exact congrArg (· + entry.outcome.delta) htally
      · show (stage.records ++ [entry]).length + total Task.size rest ≤ n
        rw [List.length_append]
        show stage.records.length + 1 + total Task.size rest ≤ n
        change stage.records.length + (1 + total Task.size rest) ≤ n at hroom
        omega
    · have huncounted := (t.perform_uncounted r x fun entry heq => henter ⟨entry, heq⟩) stage
      have hsize := t.perform_size r x stage
      cases hact : t.perform r x stage with
      | mk result after =>
        rw [hact] at huncounted hsize
        obtain ⟨⟨hsame, hrecords⟩, -⟩ := huncounted
        dsimp only at hsame hrecords
        have htally' : after.tally = .ofExamples n + .ofRecords after.records := by
          rw [hsame, hrecords]
          exact htally
        cases result with
        | error fault =>
          refine ⟨htally', ?_⟩
          show after.records.length + 0 ≤ n
          rw [hrecords]
          omega
        | ok more =>
          have hmore : total Task.size more ≤ t.size := hsize more rfl
          refine ⟨htally', ?_⟩
          show after.records.length + total Task.size (more ++ rest) ≤ n
          rw [hrecords, total_append]
          omega

/-- The books are in order at the start. -/
theorem Point.start_kept (session : σ) (console : Console) (suites : List Suite) :
    (Point.start session console suites).Kept (countExamples suites) where
  tally := (Tally.add_zero _).symm
  room := by
    show 0 + total Task.size (suites.map .suite ++ [.close]) ≤ total Suite.size suites
    rw [total_append, total_map]
    exact Nat.le_of_eq (Nat.zero_add _)

/-! ## §5. The counters of a run. -/

/-- The counters of a stage agree with its records and with the number of
examples. -/
structure Stage.Balanced (stage : Stage σ) (n : Nat) : Prop where
  tried : stage.tally.tried
    = stage.tally.errors + stage.tally.failures + successCount stage.records
  /-- No subtraction stops at zero. -/
  unsaturated : stage.tally.errors ≤ stage.tally.tried
    ∧ stage.tally.failures ≤ stage.tally.tried - stage.tally.errors
  successes : stage.tally.successes = successCount stage.records
  examples : stage.tally.examples = n
  bounded : stage.tally.tried ≤ stage.tally.examples

theorem Point.Kept.balanced {n : Nat} {point : Point σ} (h : point.Kept n) :
    point.stage.Balanced n := by
  have htried : point.stage.tally.tried = point.stage.records.length := by
    rw [h.tally, Tally.tried_add, Tally.tried_ofRecords]
    exact Nat.zero_add _
  have hexamples : point.stage.tally.examples = n := by
    rw [h.tally, Tally.examples_add, Tally.examples_ofRecords]
    rfl
  have hsum : point.stage.tally.tried
      = point.stage.tally.errors + point.stage.tally.failures
        + successCount point.stage.records := by
    rw [h.tally, Tally.tried_add, Tally.errors_add, Tally.failures_add, Tally.tried_ofRecords_eq]
    show 0 + _ = 0 + _ + (0 + _) + _
    omega
  refine ⟨hsum, ⟨by omega, by omega⟩, ?_, hexamples, ?_⟩
  · unfold Tally.successes
    omega
  · have hroom := h.room
    omega

/-- **The counters agree at every point of every run**, whatever the session
answers, however laws are checked and however little the console takes: at each
point, and in the stage that the run leaves behind, which is that of the last
point, whether the run ended well or with a fault. -/
theorem Rehearser.rehearse_balanced (r : Rehearser σ) (x : Examiner σ) (session : σ)
    (console : Console) (suites : List Suite) :
    (∀ k, (r.after x k (.start session console suites)).stage.Balanced (countExamples suites))
      ∧ (∃ k, r.after x k (.start session console suites)
        = .behind (r.rehearseBy x session console suites) fun _ => [])
      ∧ (r.rehearseBy x session console suites).2.Balanced (countExamples suites)
      ∧ r.rehearseBy r.examiner session console suites = r.rehearse session console suites := by
  have hkept : ∀ k, (r.after x k (.start session console suites)).Kept (countExamples suites) :=
    r.after_keeps x (r.advance_kept x _) (Point.start_kept session console suites)
  obtain ⟨k, hk⟩ := r.rehearse_reached x session console suites
  refine ⟨fun k => (hkept k).balanced, ⟨k, hk⟩, ?_, r.rehearseBy_examiner session console suites⟩
  have hlast := (hkept k).balanced
  rw [hk] at hlast
  cases hrun : r.rehearseBy x session console suites with
  | mk result stage =>
    rw [hrun] at hlast
    cases result <;> exact hlast

end Rehearsal
