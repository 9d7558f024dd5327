/-
  Rehearsal.Proofs.Coverage
  ──────────────────────────────────────
  **A green run ran everything.**

  The size of the suites is counted before a run, the tries are counted while it
  goes.  What lies between the two counts is a `Gap`: the steps behind the first
  one of their dialogue that did not succeed, and the groups of the suites whose
  setup had a problem.  A report relates the items of a run to what is recorded
  for them and to what they leave out; every course that ends well comes with
  one.

    • `EachReport.size_eq` — size is what is recorded and the gap together,
    • `EachReport.eq_flawless` — without a problem nothing is left out.
-/
import Rehearsal.Command
import Rehearsal.Proofs.Traffic

namespace Rehearsal

variable {σ α : Type}

/-! ## §1. Gaps. -/

/-- What a run leaves out. -/
structure Gap where
  /-- Steps behind the first one of their dialogue that did not succeed. -/
  steps : List Step := []
  /-- Groups of a suite whose setup had a problem. -/
  groups : List Group := []
  deriving DecidableEq, Repr

/-- A total over two lists, one after the other. -/
theorem total_append (f : α → Nat) (a b : List α) : total f (a ++ b) = total f a + total f b := by
  induction a with
  | nil => exact (Nat.zero_add _).symm
  | cons x a ih =>
    show f x + total f (a ++ b) = f x + total f a + total f b
    rw [ih, Nat.add_assoc]

namespace Gap

/-- Two gaps together. -/
def append (a b : Gap) : Gap := ⟨a.steps ++ b.steps, a.groups ++ b.groups⟩

instance : Append Gap := ⟨append⟩

/-- The number of outcomes that are missing. -/
def size (gap : Gap) : Nat := gap.steps.length + total Group.size gap.groups

theorem size_append (a b : Gap) : (a ++ b).size = a.size + b.size := by
  show (a.steps ++ b.steps).length + total Group.size (a.groups ++ b.groups) = _
  rw [List.length_append, total_append]
  unfold size
  omega

end Gap

/-! ## §2. Reports. -/

/-- Nothing but successes. -/
def AllSucceed (entries : List Record) : Prop := ∀ entry ∈ entries, entry.outcome = .success

theorem allSucceed_append {a b : List Record} :
    AllSucceed (a ++ b) ↔ AllSucceed a ∧ AllSucceed b := List.forall_mem_append

/-- The success of a step. -/
def Step.success (step : Step) : Record := ⟨step.place, step.expression, .success⟩

/-- The success of a law. -/
def Law.success (law : Law) : Record := ⟨law.place, law.expression, .success⟩

/-- A dialogue: successes only, or up to the first step that has another outcome;
the steps behind it are left out. -/
inductive DialogueReport : List Step → List Record → Gap → Prop
  | nil : DialogueReport [] [] {}
  | passed (step : Step) {rest : List Step} {entries : List Record} {gap : Gap}
      (more : DialogueReport rest entries gap) :
      DialogueReport (step :: rest) (step.success :: entries) gap
  | cut (step : Step) (rest : List Step) {entry : Record} (hplace : entry.place = step.place)
      (problem : entry.outcome ≠ .success) :
      DialogueReport (step :: rest) [entry] { steps := rest }

/-- A law: one outcome, whatever it is. -/
inductive LawReport (law : Law) : List Record → Gap → Prop
  | checked (outcome : Outcome) : LawReport law [⟨law.place, law.expression, outcome⟩] {}

/-- One report after the other for the members of a list. -/
inductive EachReport (P : α → List Record → Gap → Prop) : List α → List Record → Gap → Prop
  | nil : EachReport P [] [] {}
  | cons {a : α} {rest : List α} {entries more : List Record} {gap gap' : Gap}
      (first : P a entries gap) (others : EachReport P rest more gap') :
      EachReport P (a :: rest) (entries ++ more) (gap ++ gap')

/-- A group: every dialogue, then every law. -/
inductive GroupReport (g : Group) : List Record → Gap → Prop
  | intro {first second : List Record} {gap gap' : Gap}
      (dialogues : EachReport DialogueReport g.dialogues first gap)
      (laws : EachReport LawReport g.laws second gap') :
      GroupReport g (first ++ second) (gap ++ gap')

/-- A suite: its setup and all of its groups, or none of them if something else
than a success is recorded in the setup. -/
inductive SuiteReport (suite : Suite) : List Record → Gap → Prop
  | suppressed {entries : List Record} {gap : Gap}
      (setup : EachReport GroupReport suite.setup.toList entries gap)
      (problem : ¬ AllSucceed entries) :
      SuiteReport suite entries (gap ++ { groups := suite.groups })
  | full {first second : List Record} {gap gap' : Gap}
      (setup : EachReport GroupReport suite.setup.toList first gap) (clean : AllSucceed first)
      (groups : EachReport GroupReport suite.groups second gap') :
      SuiteReport suite (first ++ second) (gap ++ gap')

/-- A whole run. -/
abbrev RunReport : List Suite → List Record → Gap → Prop := EachReport SuiteReport

/-! ## §3. Size is what is recorded and the gap together. -/

theorem DialogueReport.size_eq {steps : List Step} {entries : List Record} {gap : Gap}
    (h : DialogueReport steps entries gap) : steps.length = entries.length + gap.size := by
  induction h with
  | nil => rfl
  | passed step more ih =>
    rw [List.length_cons, List.length_cons, ih]
    omega
  | cut step rest hplace problem =>
    show rest.length + 1 = 1 + (rest.length + 0)
    omega

theorem EachReport.size_eq {P : α → List Record → Gap → Prop} {f : α → Nat} {as : List α}
    {entries : List Record} {gap : Gap} (h : EachReport P as entries gap)
    (hP : ∀ a entries gap, P a entries gap → f a = entries.length + gap.size) :
    total f as = entries.length + gap.size := by
  induction h with
  | nil => rfl
  | @cons a rest _ _ _ _ first others ih =>
    show f a + total f rest = _
    rw [hP a _ _ first, ih, List.length_append, Gap.size_append]
    omega

/-- Dialogues and laws make up the size of a group, whatever their order. -/
theorem Group.size_eq (g : Group) :
    g.size = total List.length g.dialogues + total (fun _ => 1) g.laws := by
  induction g with
  | nil => rfl
  | cons item g ih =>
    show item.size + Group.size g = _
    rw [ih]
    cases item with
    | dialogue steps => exact (Nat.add_assoc _ _ _).symm
    | law law => exact Nat.add_left_comm _ _ _

theorem GroupReport.size_eq {g : Group} {entries : List Record} {gap : Gap}
    (h : GroupReport g entries gap) : g.size = entries.length + gap.size := by
  cases h with
  | intro dialogues laws =>
    have hlaw : ∀ law entries gap, LawReport law entries gap → 1 = entries.length + gap.size := by
      intro law entries gap hlaw
      cases hlaw
      rfl
    have hdialogues := dialogues.size_eq fun _ _ _ => DialogueReport.size_eq
    have hlaws := laws.size_eq hlaw
    rw [Group.size_eq, hdialogues, hlaws, List.length_append, Gap.size_append]
    omega

theorem SuiteReport.size_eq {suite : Suite} {entries : List Record} {gap : Gap}
    (h : SuiteReport suite entries gap) : suite.size = entries.length + gap.size := by
  unfold Suite.size
  rw [total_append]
  cases h with
  | suppressed setup problem =>
    rw [setup.size_eq fun _ _ _ => GroupReport.size_eq, Gap.size_append, Nat.add_assoc]
    show _ = _ + (_ + (0 + total Group.size suite.groups))
    rw [Nat.zero_add]
  | full setup clean groups =>
    rw [setup.size_eq fun _ _ _ => GroupReport.size_eq, groups.size_eq fun _ _ _ => GroupReport.size_eq,
      List.length_append, Gap.size_append]
    omega

/-! ## §4. Without a problem nothing is left out. -/

/-- A success for every step, then for every law. -/
def Group.flawless (g : Group) : List Record :=
  g.dialogues.flatMap (·.map Step.success) ++ g.laws.flatMap fun law => [law.success]

/-- A success for everything in the suite, setup included. -/
def Suite.flawless (suite : Suite) : List Record :=
  suite.setup.toList.flatMap Group.flawless ++ suite.groups.flatMap Group.flawless

/-- A success for everything there is, exactly once and in order. -/
def flawless (suites : List Suite) : List Record := suites.flatMap Suite.flawless

theorem DialogueReport.eq_flawless {steps : List Step} {entries : List Record} {gap : Gap}
    (h : DialogueReport steps entries gap) (hall : AllSucceed entries) :
    entries = steps.map Step.success := by
  induction h with
  | nil => rfl
  | passed step more ih => rw [List.map_cons, ← ih (List.forall_mem_cons.mp hall).2]
  | cut step rest hplace problem => exact absurd (hall _ (List.mem_singleton.mpr rfl)) problem

theorem EachReport.eq_flawless {P : α → List Record → Gap → Prop} {f : α → List Record}
    {as : List α} {entries : List Record} {gap : Gap} (h : EachReport P as entries gap)
    (hP : ∀ a entries gap, P a entries gap → AllSucceed entries → entries = f a)
    (hall : AllSucceed entries) : entries = as.flatMap f := by
  induction h with
  | nil => rfl
  | cons first others ih =>
    obtain ⟨hfirst, hothers⟩ := allSucceed_append.mp hall
    rw [List.flatMap_cons, ← hP _ _ _ first hfirst, ← ih hothers]

theorem GroupReport.eq_flawless {g : Group} {entries : List Record} {gap : Gap}
    (h : GroupReport g entries gap) (hall : AllSucceed entries) : entries = g.flawless := by
  cases h with
  | intro dialogues laws =>
    have hlaw : ∀ (law : Law) entries gap, LawReport law entries gap → AllSucceed entries →
        entries = [law.success] := by
      intro law entries gap hlaw hall
      cases hlaw with
      | checked outcome =>
        have hsuccess : outcome = .success := hall _ (List.mem_singleton.mpr rfl)
        rw [hsuccess]
        rfl
    obtain ⟨hfirst, hsecond⟩ := allSucceed_append.mp hall
    unfold Group.flawless
    rw [← dialogues.eq_flawless (fun _ _ _ => DialogueReport.eq_flawless) hfirst,
      ← laws.eq_flawless hlaw hsecond]

theorem SuiteReport.eq_flawless {suite : Suite} {entries : List Record} {gap : Gap}
    (h : SuiteReport suite entries gap) (hall : AllSucceed entries) :
    entries = suite.flawless := by
  cases h with
  | suppressed setup problem => exact absurd hall problem
  | full setup clean groups =>
    obtain ⟨hfirst, hsecond⟩ := allSucceed_append.mp hall
    unfold Suite.flawless
    rw [← setup.eq_flawless (fun _ _ _ => GroupReport.eq_flawless) hfirst,
      ← groups.eq_flawless (fun _ _ _ => GroupReport.eq_flawless) hsecond]

theorem allSucceed_flatMap {f : α → List Record} (hf : ∀ a, AllSucceed (f a)) (as : List α) :
    AllSucceed (as.flatMap f) := by
  intro entry h
  obtain ⟨a, -, ha⟩ := List.mem_flatMap.mp h
  exact hf a entry ha

theorem Group.allSucceed_flawless (g : Group) : AllSucceed g.flawless := by
  refine allSucceed_append.mpr ⟨allSucceed_flatMap ?_ _, allSucceed_flatMap ?_ _⟩
  · intro steps entry h
    obtain ⟨step, -, rfl⟩ := List.mem_map.mp h
    rfl
  · intro law entry h
    rw [List.mem_singleton.mp h]
    rfl

theorem allSucceed_flawless (suites : List Suite) : AllSucceed (flawless suites) :=
  allSucceed_flatMap (fun _ => allSucceed_append.mpr
    ⟨allSucceed_flatMap Group.allSucceed_flawless _,
      allSucceed_flatMap Group.allSucceed_flawless _⟩) suites

/-! ## §5. Every course that ends well has a report. -/

section Courses

variable {c : Comparison} {l : LawChecker} {moves : List Move}

/-- An inquiry records nothing. -/
theorem Inquiry.Answered.records_eq {inquiry : Inquiry α} {a : α}
    (h : inquiry.Answered moves a) : Move.records moves = [] := by
  induction h with
  | done a => rfl
  | ask expression next answer h ih => exact ih

/-- A preparation records nothing. -/
theorem PreparationCourse.records_eq {p : Preparation} {ending : Except SessionFault Unit}
    (h : PreparationCourse p moves ending) : Move.records moves = [] := by
  cases h with
  | failed fault => rfl
  | replayed answers hlen =>
    rw [Move.records_reload, Move.records, List.filterMap_eq_nil_iff]
    intro move hmove
    rw [← List.map_uncurry_zip_eq_zipWith] at hmove
    obtain ⟨pair, -, rfl⟩ := List.mem_map.mp hmove
    rfl

/-- Only a match is recorded as a success. -/
theorem Rehearser.verdictRecord_ne_success {step : Step} {result : Except Blame Verdict}
    (h : result ≠ .ok .match) : (Rehearser.verdictRecord step result).2 ≠ .success := by
  cases result with
  | error blame => exact Outcome.noConfusion
  | ok verdict =>
    cases verdict with
    | «match» => exact absurd rfl h
    | mismatch diagnostic => exact Outcome.noConfusion

theorem DialogueCourse.report {steps : List Step} {ending : Except SessionFault Unit}
    (h : DialogueCourse c steps moves ending) :
    ∃ gap, DialogueReport steps (Move.records moves) gap := by
  induction h with
  | nil => exact ⟨_, .nil⟩
  | @passed step _ _ _ _ check more ih =>
    obtain ⟨gap, ih⟩ := ih
    rw [Move.records_append, check.records_eq]
    exact ⟨gap, .passed step ih⟩
  | @cut step rest _ _ check hne =>
    rw [Move.records_append, check.records_eq]
    exact ⟨_, .cut step rest rfl (Rehearser.verdictRecord_ne_success hne)⟩

theorem LawCourse.report {p : Preparation} {law : Law} (h : LawCourse l p law moves (.ok ())) :
    ∃ gap, LawReport law (Move.records moves) gap := by
  cases h with
  | checked first check =>
    rw [Move.records_append, Move.records_append, first.records_eq, check.records_eq]
    exact ⟨_, .checked _⟩

theorem EachCourse.report {P : α → List Move → Except SessionFault Unit → Prop}
    {R : α → List Record → Gap → Prop} {as : List α} (h : EachCourse P as moves (.ok ()))
    (hP : ∀ a moves, P a moves (.ok ()) → ∃ gap, R a (Move.records moves) gap) :
    ∃ gap, EachReport R as (Move.records moves) gap := by
  generalize hend : (Except.ok () : Except SessionFault Unit) = ending at h
  induction h with
  | nil => exact ⟨_, .nil⟩
  | cons first others ih =>
    obtain ⟨gap, hfirst⟩ := hP _ _ first
    obtain ⟨gap', hothers⟩ := ih hend
    rw [Move.records_append]
    exact ⟨_, .cons hfirst hothers⟩
  | stopped rest first => cases hend

theorem GroupCourse.report {p : Preparation} {g : Group}
    (h : GroupCourse c l p g moves (.ok ())) : ∃ gap, GroupReport g (Move.records moves) gap := by
  cases h with
  | prepared first dialogues laws =>
    obtain ⟨gap, hdialogues⟩ := dialogues.report fun _ _ h => h.report
    obtain ⟨gap', hlaws⟩ := laws.report fun _ _ h => h.report
    rw [Move.records_append, Move.records_append, first.records_eq, List.nil_append]
    exact ⟨_, .intro hdialogues hlaws⟩

theorem SetupCourse.report {setup : Option Group} (h : SetupCourse c l setup moves (.ok ())) :
    ∃ gap, EachReport GroupReport setup.toList (Move.records moves) gap := by
  cases h with
  | absent => exact ⟨_, .nil⟩
  | present h =>
    obtain ⟨gap, hgroup⟩ := h.report
    rw [← List.append_nil (Move.records moves)]
    exact ⟨_, .cons hgroup .nil⟩

theorem SuiteCourse.report {suite : Suite} (h : SuiteCourse c l suite moves (.ok ())) :
    ∃ gap, SuiteReport suite (Move.records moves) gap := by
  cases h with
  | suppressed setup problem =>
    obtain ⟨gap, hsetup⟩ := setup.report
    exact ⟨_, .suppressed hsetup problem⟩
  | full setup clean groups =>
    obtain ⟨gap, hsetup⟩ := setup.report
    obtain ⟨gap', hgroups⟩ := groups.report fun _ _ h => h.report
    rw [Move.records_append]
    exact ⟨_, .full hsetup clean hgroups⟩

theorem RunCourse.report {suites : List Suite} (h : RunCourse c l suites moves (.ok ())) :
    ∃ gap, RunReport suites (Move.records moves) gap :=
  EachCourse.report h fun _ _ h => h.report

end Courses

/-! ## §6. The counts of a run. -/

/-- A run that ends well has a report; the tally is the size of the suites and
the counts of what is recorded. -/
theorem Rehearser.rehearse_report (r : Rehearser σ) (session : σ) (console : Console)
    (suites : List Suite) (tally : Tally)
    (h : (r.rehearse session console suites).1 = .ok tally) :
    tally = .ofExamples (countExamples suites)
        + .ofRecords (r.rehearse session console suites).2.records
      ∧ ∃ gap, RunReport suites (r.rehearse session console suites).2.records gap := by
  unfold Rehearser.rehearse at h ⊢
  obtain ⟨moves, ending, hcourse, hend, htraced⟩ := r.runAll_traced suites _ (by rw [h]; simp)
  rw [h] at hend
  have hrecords := htraced.records.trans (List.nil_append _)
  cases ending with
  | error fault => exact absurd hend (by simp [Rehearser.endingOf])
  | ok u =>
    rw [hrecords]
    exact ⟨(Except.ok.inj hend).trans htraced.tally, hcourse.report⟩

/-- A tally shows success exactly if nothing but successes was recorded. -/
theorem Tally.isSuccess_ofRecords (n : Nat) (entries : List Record) :
    (Tally.ofExamples n + Tally.ofRecords entries).isSuccess = true ↔ AllSucceed entries := by
  unfold AllSucceed
  rw [← Tally.ofRecords_clean_iff]
  simp [Tally.isSuccess, Tally.problems, Tally.ofExamples]

/-- The tally of a run shows success exactly if the records are flawless. -/
theorem Rehearser.isSuccess_iff_flawless (r : Rehearser σ) (session : σ) (console : Console)
    (suites : List Suite) (tally : Tally)
    (h : (r.rehearse session console suites).1 = .ok tally) :
    tally.isSuccess = true ↔ (r.rehearse session console suites).2.records = flawless suites := by
  obtain ⟨htally, gap, hreport⟩ := r.rehearse_report session console suites tally h
  rw [htally, Tally.isSuccess_ofRecords]
  constructor
  · exact hreport.eq_flawless fun _ _ _ => SuiteReport.eq_flawless
  · intro heq
    rw [heq]
    exact allSucceed_flawless suites

/-- **A green run really ran everything.**  The examples of the tally are the
size of the suites; those that were not tried are the steps behind a problem of
their dialogue and the groups behind a problem of their setup; and the tally
shows success exactly if everything is recorded, each exactly once, as a success. -/
theorem Rehearser.rehearse_coverage (r : Rehearser σ) (session : σ) (console : Console)
    (suites : List Suite) (tally : Tally)
    (h : (r.rehearse session console suites).1 = .ok tally) :
    tally.examples = countExamples suites
      ∧ tally.tried = (r.rehearse session console suites).2.records.length
      ∧ (∃ gap, RunReport suites (r.rehearse session console suites).2.records gap
        ∧ tally.examples = tally.tried + (gap.steps.length + total Group.size gap.groups))
      ∧ (tally.isSuccess = true
        ↔ (r.rehearse session console suites).2.records = flawless suites)
      ∧ (tally.isSuccess = true
        ↔ (r.rehearse session console suites).2.records.Perm (flawless suites)) := by
  have hsuccess := r.isSuccess_iff_flawless session console suites tally h
  obtain ⟨htally, gap, hreport⟩ := r.rehearse_report session console suites tally h
  have hexamples : tally.examples = countExamples suites := by
    rw [htally, Tally.examples_add, Tally.examples_ofRecords]
    rfl
  have htried : tally.tried = (r.rehearse session console suites).2.records.length := by
    rw [htally, Tally.tried_add, Tally.tried_ofRecords]
    exact Nat.zero_add _
  refine ⟨hexamples, htried, ⟨gap, hreport, ?_⟩, hsuccess, ?_⟩
  · rw [hexamples, htried]
    exact hreport.size_eq fun _ _ _ => SuiteReport.size_eq
  · constructor
    · intro hgreen
      exact .of_eq (hsuccess.mp hgreen)
    · intro hperm
      rw [htally, Tally.isSuccess_ofRecords]
      intro entry hentry
      exact allSucceed_flawless suites entry (hperm.mem_iff.mp hentry)

/-- Of five examples four are tried, for one step stands behind a problem. -/
theorem rehearse_coverage_sample :
    (sampleRehearser.rehearse {} {} sampleSuites).1 = .ok ⟨5, 4, 0, 1⟩
      ∧ ∃ gap, RunReport sampleSuites (sampleRehearser.rehearse {} {} sampleSuites).2.records gap
        ∧ gap.size = 1 := by
  have h : (sampleRehearser.rehearse {} {} sampleSuites).1 = .ok ⟨5, 4, 0, 1⟩ := by
    have hsome : (sampleRehearser.rehearse {} {} sampleSuites).1.toOption = some ⟨5, 4, 0, 1⟩ := by
      decide +kernel
    cases hr : (sampleRehearser.rehearse {} {} sampleSuites).1 with
    | ok tally =>
      rw [hr] at hsome
      exact congrArg Except.ok (Option.some.inj hsome)
    | error fault =>
      rw [hr] at hsome
      exact absurd hsome (by simp [Except.toOption])
  obtain ⟨-, -, ⟨gap, hreport, hgap⟩, -⟩ :=
    sampleRehearser.rehearse_coverage {} {} sampleSuites ⟨5, 4, 0, 1⟩ h
  refine ⟨h, gap, hreport, ?_⟩
  show gap.steps.length + total Group.size gap.groups = 1
  exact (Nat.add_left_cancel hgap).symm

/-- **The program ends with zero** exactly if it could be prepared, the run ended
well, and everything in the suites was recorded once, as a success. -/
theorem Command.execute_eq_zero_iff (files : Discovery.Lookup) (a : Arguments) :
    (Command.execute files a).exitCode = 0
      ↔ ∃ p tally, Command.prepare files a = .ok p
        ∧ (p.rehearser.rehearse p.start (Command.console a.color) p.suites).1 = .ok tally
        ∧ (p.rehearser.rehearse p.start (Command.console a.color) p.suites).2.records
          = flawless p.suites := by
  unfold Command.execute
  cases Command.prepare files a with
  | error fatal => simp
  | ok p =>
    have hsuccess := p.rehearser.isSuccess_iff_flawless p.start (Command.console a.color) p.suites
    cases hr : p.rehearser.rehearse p.start (Command.console a.color) p.suites with
    | mk result stage =>
      rw [hr] at hsuccess
      cases result with
      | error fault => simp [hr]
      | ok tally =>
        have hgreen := hsuccess tally rfl
        simp only [hr]
        by_cases h : tally.isSuccess = true
        · rw [if_pos h]
          exact ⟨fun _ => ⟨p, tally, rfl, by rw [hr], by rw [hr]; exact hgreen.mp h⟩, fun _ => rfl⟩
        · rw [if_neg h]
          refine ⟨fun hzero => absurd hzero Nat.one_ne_zero, ?_⟩
          rintro ⟨_, _, hp, -, hrecords⟩
          rw [← Except.ok.inj hp, hr] at hrecords
          exact absurd (hgreen.mpr hrecords) h

end Rehearsal
