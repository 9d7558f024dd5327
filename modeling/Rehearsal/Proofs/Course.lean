/-
  Rehearsal.Proofs.Course
  ──────────────────────────────────────
  **The course of a run, rule by rule.**

  A `Move` is a request with its answer, or an outcome that is recorded.  The
  courses below say which lists of moves a preparation, a dialogue, a law, a
  group, a suite and a whole run may consist of.  They know the comparison and
  the law checker, but no session: every answer is open, and only the rules that
  fit the answers go on.  A course ends well or with the fault of a reload.

    • `Session.Plays` — a session gives exactly the answers of a course,
    • `RunCourse.determined` — with a session, a run has one course only,
    • `RunCourse.stopsAt` — a failing reload is the last move, and only it fails.
-/
import Rehearsal.Run

namespace Rehearsal

/-! ## §1. Moves. -/

/-- A request with its answer, or an outcome that is recorded. -/
inductive Move where
  | reload (result : Except SessionFault Unit)
  | ask (expression : Text) (answer : Answer)
  | record (entry : Record)

/-- An event that is a request to the session. -/
def Event.isRequest : Event → Bool
  | .reloaded _ => true
  | .asked _ => true
  | _ => false

namespace Move

/-- The event that a request leaves in a log. -/
def request? : Move → Option Event
  | reload result => some (.reloaded result.isOk)
  | ask expression _ => some (.asked expression)
  | record _ => none

/-- The entry that a move records. -/
def entry? : Move → Option Record
  | record entry => some entry
  | _ => none

/-- The requests of a course, in order. -/
def requests (moves : List Move) : List Event := moves.filterMap request?

/-- What is recorded in a course, in order. -/
def records (moves : List Move) : List Record := moves.filterMap entry?

@[simp] theorem requests_nil : requests [] = [] := rfl
@[simp] theorem records_nil : records [] = [] := rfl

@[simp] theorem requests_append (a b : List Move) :
    requests (a ++ b) = requests a ++ requests b := by simp [requests]

@[simp] theorem records_append (a b : List Move) :
    records (a ++ b) = records a ++ records b := by simp [records]

variable (rest : List Move)

@[simp] theorem requests_reload (result : Except SessionFault Unit) :
    requests (.reload result :: rest) = .reloaded result.isOk :: requests rest := rfl

@[simp] theorem requests_ask (expression : Text) (answer : Answer) :
    requests (.ask expression answer :: rest) = .asked expression :: requests rest := rfl

@[simp] theorem requests_record (entry : Record) :
    requests (.record entry :: rest) = requests rest := rfl

@[simp] theorem records_reload (result : Except SessionFault Unit) :
    records (.reload result :: rest) = records rest := rfl

@[simp] theorem records_ask (expression : Text) (answer : Answer) :
    records (.ask expression answer :: rest) = records rest := rfl

@[simp] theorem records_record (entry : Record) :
    records (.record entry :: rest) = entry :: records rest := rfl

/-- Nothing but successes is recorded. -/
def Clean (moves : List Move) : Prop := ∀ entry ∈ records moves, entry.outcome = .success

end Move

/-! ## §2. What a session makes of a course. -/

namespace Session

variable {σ : Type}

/-- Asked in this order, the session gives exactly these answers and comes from
the first state to the second one. -/
def Plays (s : Session σ) : σ → List Move → σ → Prop
  | before, [], after => before = after
  | before, .reload result :: rest, after =>
      (s.reload before).1 = result ∧ Plays s (s.reload before).2 rest after
  | before, .ask expression answer :: rest, after =>
      (s.evaluate before expression).1 = answer
        ∧ Plays s (s.evaluate before expression).2 rest after
  | before, .record _ :: rest, after => Plays s before rest after

variable {s : Session σ}

/-- A course is played part by part. -/
theorem plays_append {a b : List Move} {before after : σ} :
    s.Plays before (a ++ b) after ↔ ∃ mid, s.Plays before a mid ∧ s.Plays mid b after := by
  induction a generalizing before with
  | nil => simp [Plays]
  | cons move a ih =>
    cases move with
    | record entry => exact ih
    | reload result =>
      show _ ∧ s.Plays _ (a ++ b) after ↔ ∃ mid, (_ ∧ s.Plays _ a mid) ∧ _
      rw [ih]
      simp only [and_assoc, exists_and_left]
    | ask expression answer =>
      show _ ∧ s.Plays _ (a ++ b) after ↔ ∃ mid, (_ ∧ s.Plays _ a mid) ∧ _
      rw [ih]
      simp only [and_assoc, exists_and_left]

/-- A course leads to one state. -/
theorem Plays.state_eq {moves : List Move} {before after after' : σ}
    (h : s.Plays before moves after) (h' : s.Plays before moves after') : after = after' := by
  induction moves generalizing before with
  | nil => exact h.symm.trans h'
  | cons move moves ih =>
    cases move with
    | reload result => exact ih h.2 h'.2
    | ask expression answer => exact ih h.2 h'.2
    | record entry => exact ih h h'

end Session

/-! ## §3. The rules. -/

/-- An inquiry is answered: its questions in order, each with an answer, and
what it comes to with these answers. -/
inductive Inquiry.Answered {α : Type} : Inquiry α → List Move → α → Prop
  | done (a : α) : Answered (.done a) [] a
  | ask (expression : Text) (next : Answer → Inquiry α) (answer : Answer)
      {moves : List Move} {a : α} (h : Answered (next answer) moves a) :
      Answered (.ask expression next) (.ask expression answer :: moves) a

/-- A preparation is one reload and, if it succeeds, every expression of the
replay, whatever is answered. -/
inductive PreparationCourse (p : Preparation) : List Move → Except SessionFault Unit → Prop
  | failed (fault : SessionFault) :
      PreparationCourse p [.reload (.error fault)] (.error fault)
  | replayed (answers : List Answer) (h : answers.length = p.expressions.length) :
      PreparationCourse p (.reload (.ok ()) :: List.zipWith .ask p.expressions answers) (.ok ())

/-- A dialogue checks and records its steps in order and is cut after the first
one whose check is not a match. -/
inductive DialogueCourse (c : Comparison) :
    List Step → List Move → Except SessionFault Unit → Prop
  | nil : DialogueCourse c [] [] (.ok ())
  | passed {step : Step} {rest : List Step} {asks moves : List Move}
      {ending : Except SessionFault Unit}
      (check : (c.check step).run.Answered asks (.ok .match))
      (more : DialogueCourse c rest moves ending) :
      DialogueCourse c (step :: rest)
        (asks ++ .record ⟨step.place, step.expression, .success⟩ :: moves) ending
  | cut {step : Step} (rest : List Step) {asks : List Move} {result : Except Blame Verdict}
      (check : (c.check step).run.Answered asks result) (h : result ≠ .ok .match) :
      DialogueCourse c (step :: rest)
        (asks ++ [.record ⟨step.place, (Rehearser.verdictRecord step result).1,
          (Rehearser.verdictRecord step result).2⟩]) (.ok ())

/-- A law is checked and recorded in a freshly prepared session. -/
inductive LawCourse (l : LawChecker) (p : Preparation) (law : Law) :
    List Move → Except SessionFault Unit → Prop
  | unprepared {moves : List Move} {fault : SessionFault}
      (h : PreparationCourse p moves (.error fault)) : LawCourse l p law moves (.error fault)
  | checked {first asks : List Move} {outcome : Outcome}
      (h : PreparationCourse p first (.ok ()))
      (check : (l.check law.expression).Answered asks outcome) :
      LawCourse l p law (first ++ (asks ++ [.record ⟨law.place, law.expression, outcome⟩]))
        (.ok ())

/-- One course after the other for the members of a list, up to the first one
that ends with a fault. -/
inductive EachCourse {α : Type} (P : α → List Move → Except SessionFault Unit → Prop) :
    List α → List Move → Except SessionFault Unit → Prop
  | nil : EachCourse P [] [] (.ok ())
  | cons {a : α} {rest : List α} {moves more : List Move} {ending : Except SessionFault Unit}
      (first : P a moves (.ok ())) (others : EachCourse P rest more ending) :
      EachCourse P (a :: rest) (moves ++ more) ending
  | stopped {a : α} (rest : List α) {moves : List Move} {fault : SessionFault}
      (first : P a moves (.error fault)) : EachCourse P (a :: rest) moves (.error fault)

/-- A group is prepared; then come its dialogues, then its laws. -/
inductive GroupCourse (c : Comparison) (l : LawChecker) (p : Preparation) (g : Group) :
    List Move → Except SessionFault Unit → Prop
  | unprepared {moves : List Move} {fault : SessionFault}
      (h : PreparationCourse p moves (.error fault)) : GroupCourse c l p g moves (.error fault)
  | prepared {first dialogues laws : List Move} {ending : Except SessionFault Unit}
      (h : PreparationCourse p first (.ok ()))
      (hd : EachCourse (DialogueCourse c) g.dialogues dialogues (.ok ()))
      (hl : EachCourse (LawCourse l p) g.laws laws ending) :
      GroupCourse c l p g (first ++ (dialogues ++ laws)) ending

/-- The setup of a suite is a group that is prepared by a mere reload; without a
setup nothing happens. -/
inductive SetupCourse (c : Comparison) (l : LawChecker) :
    Option Group → List Move → Except SessionFault Unit → Prop
  | absent : SetupCourse c l none [] (.ok ())
  | present {g : Group} {moves : List Move} {ending : Except SessionFault Unit}
      (h : GroupCourse c l .reload g moves ending) : SetupCourse c l (some g) moves ending

/-- The groups of a suite follow its setup, each with the setup replayed, unless
something else than a success was recorded in the setup. -/
inductive SuiteCourse (c : Comparison) (l : LawChecker) (suite : Suite) :
    List Move → Except SessionFault Unit → Prop
  | stopped {moves : List Move} {fault : SessionFault}
      (h : SetupCourse c l suite.setup moves (.error fault)) :
      SuiteCourse c l suite moves (.error fault)
  | suppressed {moves : List Move} (h : SetupCourse c l suite.setup moves (.ok ()))
      (problem : ¬ Move.Clean moves) : SuiteCourse c l suite moves (.ok ())
  | full {first moves : List Move} {ending : Except SessionFault Unit}
      (h : SetupCourse c l suite.setup first (.ok ())) (clean : Move.Clean first)
      (groups : EachCourse (GroupCourse c l (.replay (suite.setup.getD []))) suite.groups
        moves ending) :
      SuiteCourse c l suite (first ++ moves) ending

/-- A run takes its suites in order, up to the first reload that fails. -/
abbrev RunCourse (c : Comparison) (l : LawChecker) :
    List Suite → List Move → Except SessionFault Unit → Prop :=
  EachCourse (SuiteCourse c l)

/-- Only a preparation can fail, so a dialogue ends well. -/
theorem DialogueCourse.ending_eq {c : Comparison} {steps : List Step} {moves : List Move}
    {ending : Except SessionFault Unit} (h : DialogueCourse c steps moves ending) :
    ending = .ok () := by
  induction h with
  | nil => rfl
  | passed check more ih => exact ih
  | cut rest check hne => rfl

theorem EachCourse.ending_eq {α : Type} {P : α → List Move → Except SessionFault Unit → Prop}
    (hP : ∀ {a moves ending}, P a moves ending → ending = .ok ()) {as : List α}
    {moves : List Move} {ending : Except SessionFault Unit} (h : EachCourse P as moves ending) :
    ending = .ok () := by
  induction h with
  | nil => rfl
  | cons first others ih => exact ih
  | stopped rest first => exact hP first

/-! ## §4. With a session there is one course only. -/

section Determined

variable {σ : Type} {s : Session σ} {c : Comparison} {l : LawChecker}

/-- What a session plays from one state is the only course of its kind. -/
def Determined (s : Session σ) (P : List Move → Except SessionFault Unit → Prop) : Prop :=
  ∀ {before after after' : σ} {moves moves' : List Move} {ending ending' : Except SessionFault Unit},
    P moves ending → P moves' ending' → s.Plays before moves after → s.Plays before moves' after' →
      moves = moves' ∧ ending = ending'

/-- **The answers decide how an inquiry goes on.** -/
theorem Inquiry.Answered.determined {α : Type} {inquiry : Inquiry α} {moves moves' : List Move}
    {a a' : α} {before after after' : σ}
    (h : inquiry.Answered moves a) (h' : inquiry.Answered moves' a')
    (hp : s.Plays before moves after) (hp' : s.Plays before moves' after') :
    moves = moves' ∧ a = a' := by
  induction h generalizing before moves' with
  | done a =>
    cases h'
    exact ⟨rfl, rfl⟩
  | ask expression next answer h ih =>
    cases h' with
    | ask _ _ answer' h' =>
      obtain ⟨ha, hp⟩ := hp
      obtain ⟨ha', hp'⟩ := hp'
      obtain rfl : answer = answer' := ha.symm.trans ha'
      obtain ⟨rfl, rfl⟩ := ih h' hp hp'
      exact ⟨rfl, rfl⟩

/-- The answers to a list of expressions that are asked whatever is answered. -/
theorem replay_determined (expressions : List Text) :
    ∀ {answers answers' : List Answer} {before after after' : σ},
      answers.length = expressions.length → answers'.length = expressions.length →
      s.Plays before (List.zipWith .ask expressions answers) after →
      s.Plays before (List.zipWith .ask expressions answers') after' → answers = answers' := by
  induction expressions with
  | nil =>
    intro answers answers' before after after' h h' _ _
    rw [List.length_eq_zero_iff.mp h, List.length_eq_zero_iff.mp h']
  | cons expression expressions ih =>
    intro answers answers' before after after' h h' hp hp'
    cases answers with
    | nil => simp at h
    | cons answer answers =>
      cases answers' with
      | nil => simp at h'
      | cons answer' answers' =>
        obtain ⟨ha, hp⟩ := hp
        obtain ⟨ha', hp'⟩ := hp'
        rw [ha.symm.trans ha', ih (by simpa using h) (by simpa using h') hp hp']

theorem PreparationCourse.determined (p : Preparation) : Determined s (PreparationCourse p) := by
  intro before after after' moves moves' ending ending' h h' hp hp'
  cases h with
  | failed fault =>
    cases h' with
    | failed fault' =>
      obtain rfl : fault = fault' := Except.error.inj (hp.1.symm.trans hp'.1)
      exact ⟨rfl, rfl⟩
    | replayed answers' _ => exact absurd (hp.1.symm.trans hp'.1) (by simp)
  | replayed answers hlen =>
    cases h' with
    | failed fault' => exact absurd (hp.1.symm.trans hp'.1) (by simp)
    | replayed answers' hlen' =>
      rw [replay_determined p.expressions hlen hlen' hp.2 hp'.2]
      exact ⟨rfl, rfl⟩

theorem DialogueCourse.determined (steps : List Step) : Determined s (DialogueCourse c steps) := by
  intro before after after' moves moves' ending ending' h
  induction h generalizing before moves' with
  | nil =>
    intro h' _ _
    cases h'
    exact ⟨rfl, rfl⟩
  | passed check more ih =>
    intro h' hp hp'
    obtain ⟨mid, hc, hp⟩ := Session.plays_append.mp hp
    cases h' with
    | passed check' more' =>
      obtain ⟨mid', hc', hp'⟩ := Session.plays_append.mp hp'
      obtain ⟨rfl, -⟩ := check.determined check' hc hc'
      obtain rfl := hc.state_eq hc'
      obtain ⟨rfl, rfl⟩ := ih more' hp hp'
      exact ⟨rfl, rfl⟩
    | cut _ check' hne =>
      obtain ⟨mid', hc', hp'⟩ := Session.plays_append.mp hp'
      exact absurd (check.determined check' hc hc').2.symm hne
  | cut rest check hne =>
    intro h' hp hp'
    obtain ⟨mid, hc, hp⟩ := Session.plays_append.mp hp
    cases h' with
    | passed check' more' =>
      obtain ⟨mid', hc', hp'⟩ := Session.plays_append.mp hp'
      exact absurd (check.determined check' hc hc').2 hne
    | cut _ check' hne' =>
      obtain ⟨mid', hc', hp'⟩ := Session.plays_append.mp hp'
      obtain ⟨rfl, rfl⟩ := check.determined check' hc hc'
      exact ⟨rfl, rfl⟩

theorem LawCourse.determined (p : Preparation) (law : Law) :
    Determined s (LawCourse l p law) := by
  intro before after after' moves moves' ending ending' h h' hp hp'
  cases h with
  | unprepared h =>
    cases h' with
    | unprepared h' => exact PreparationCourse.determined p h h' hp hp'
    | checked h' check' =>
      obtain ⟨mid', hf', -⟩ := Session.plays_append.mp hp'
      exact absurd (PreparationCourse.determined p h h' hp hf').2 (by simp)
  | checked h check =>
    obtain ⟨mid, hf, hp⟩ := Session.plays_append.mp hp
    cases h' with
    | unprepared h' => exact absurd (PreparationCourse.determined p h h' hf hp').2 (by simp)
    | checked h' check' =>
      obtain ⟨mid', hf', hp'⟩ := Session.plays_append.mp hp'
      obtain ⟨rfl, -⟩ := PreparationCourse.determined p h h' hf hf'
      obtain rfl := hf.state_eq hf'
      obtain ⟨last, hc, -⟩ := Session.plays_append.mp hp
      obtain ⟨last', hc', -⟩ := Session.plays_append.mp hp'
      obtain ⟨rfl, rfl⟩ := check.determined check' hc hc'
      exact ⟨rfl, rfl⟩

theorem EachCourse.determined {α : Type} {P : α → List Move → Except SessionFault Unit → Prop}
    (hP : ∀ a, Determined s (P a)) (as : List α) : Determined s (EachCourse P as) := by
  intro before after after' moves moves' ending ending' h
  induction h generalizing before moves' with
  | nil =>
    intro h' _ _
    cases h'
    exact ⟨rfl, rfl⟩
  | cons first others ih =>
    intro h' hp hp'
    obtain ⟨mid, hf, hp⟩ := Session.plays_append.mp hp
    cases h' with
    | cons first' others' =>
      obtain ⟨mid', hf', hp'⟩ := Session.plays_append.mp hp'
      obtain ⟨rfl, -⟩ := hP _ first first' hf hf'
      obtain rfl := hf.state_eq hf'
      obtain ⟨rfl, rfl⟩ := ih others' hp hp'
      exact ⟨rfl, rfl⟩
    | stopped _ first' => exact absurd (hP _ first first' hf hp').2 (by simp)
  | stopped rest first =>
    intro h' hp hp'
    cases h' with
    | cons first' others' =>
      obtain ⟨mid', hf', -⟩ := Session.plays_append.mp hp'
      exact absurd (hP _ first first' hp hf').2 (by simp)
    | stopped _ first' => exact hP _ first first' hp hp'

theorem GroupCourse.determined (p : Preparation) (g : Group) :
    Determined s (GroupCourse c l p g) := by
  intro before after after' moves moves' ending ending' h h' hp hp'
  cases h with
  | unprepared h =>
    cases h' with
    | unprepared h' => exact PreparationCourse.determined p h h' hp hp'
    | prepared h' _ _ =>
      obtain ⟨mid', hf', -⟩ := Session.plays_append.mp hp'
      exact absurd (PreparationCourse.determined p h h' hp hf').2 (by simp)
  | prepared h hd hl =>
    obtain ⟨mid, hf, hp⟩ := Session.plays_append.mp hp
    cases h' with
    | unprepared h' => exact absurd (PreparationCourse.determined p h h' hf hp').2 (by simp)
    | prepared h' hd' hl' =>
      obtain ⟨mid', hf', hp'⟩ := Session.plays_append.mp hp'
      obtain ⟨rfl, -⟩ := PreparationCourse.determined p h h' hf hf'
      obtain rfl := hf.state_eq hf'
      obtain ⟨last, hpd, hpl⟩ := Session.plays_append.mp hp
      obtain ⟨last', hpd', hpl'⟩ := Session.plays_append.mp hp'
      obtain ⟨rfl, -⟩ := EachCourse.determined DialogueCourse.determined _ hd hd' hpd hpd'
      obtain rfl := hpd.state_eq hpd'
      obtain ⟨rfl, rfl⟩ := EachCourse.determined (LawCourse.determined p) _ hl hl' hpl hpl'
      exact ⟨rfl, rfl⟩

theorem SetupCourse.determined (setup : Option Group) : Determined s (SetupCourse c l setup) := by
  intro before after after' moves moves' ending ending' h h' hp hp'
  cases h with
  | absent =>
    cases h'
    exact ⟨rfl, rfl⟩
  | present h =>
    cases h' with
    | present h' => exact GroupCourse.determined .reload _ h h' hp hp'

theorem SuiteCourse.determined (suite : Suite) : Determined s (SuiteCourse c l suite) := by
  intro before after after' moves moves' ending ending' h h' hp hp'
  -- The setup decides which of the three rules applies.
  cases h with
  | stopped h =>
    cases h' with
    | stopped h' => exact SetupCourse.determined suite.setup h h' hp hp'
    | suppressed h' _ => exact absurd (SetupCourse.determined suite.setup h h' hp hp').2 (by simp)
    | full h' _ _ =>
      obtain ⟨mid', hf', -⟩ := Session.plays_append.mp hp'
      exact absurd (SetupCourse.determined suite.setup h h' hp hf').2 (by simp)
  | suppressed h problem =>
    cases h' with
    | stopped h' => exact absurd (SetupCourse.determined suite.setup h h' hp hp').2 (by simp)
    | suppressed h' _ => exact SetupCourse.determined suite.setup h h' hp hp'
    | full h' clean' _ =>
      obtain ⟨mid', hf', -⟩ := Session.plays_append.mp hp'
      obtain ⟨rfl, -⟩ := SetupCourse.determined suite.setup h h' hp hf'
      exact absurd clean' problem
  | full h clean groups =>
    obtain ⟨mid, hf, hp⟩ := Session.plays_append.mp hp
    cases h' with
    | stopped h' => exact absurd (SetupCourse.determined suite.setup h h' hf hp').2 (by simp)
    | suppressed h' problem' =>
      obtain ⟨rfl, -⟩ := SetupCourse.determined suite.setup h h' hf hp'
      exact absurd clean problem'
    | full h' _ groups' =>
      obtain ⟨mid', hf', hp'⟩ := Session.plays_append.mp hp'
      obtain ⟨rfl, -⟩ := SetupCourse.determined suite.setup h h' hf hf'
      obtain rfl := hf.state_eq hf'
      obtain ⟨rfl, rfl⟩ :=
        EachCourse.determined (GroupCourse.determined _) _ groups groups' hp hp'
      exact ⟨rfl, rfl⟩

/-- **With a session, a run has one course only.** -/
theorem RunCourse.determined (suites : List Suite) : Determined s (RunCourse c l suites) :=
  EachCourse.determined SuiteCourse.determined suites

end Determined

/-! ## §5. A course stops at the first reload that fails. -/

namespace Move

/-- Every reload succeeds. -/
def Reloaded (moves : List Move) : Prop := ∀ fault, .reload (.error fault) ∉ moves

/-- Every reload succeeds, but for the very last move if the course ends with a
fault: then it is the reload with this fault. -/
def StopsAt (moves : List Move) : Except SessionFault Unit → Prop
  | .ok () => Reloaded moves
  | .error fault => ∃ before, moves = before ++ [.reload (.error fault)] ∧ Reloaded before

theorem Reloaded.append {a b : List Move} (ha : Reloaded a) (hb : Reloaded b) :
    Reloaded (a ++ b) := by
  intro fault h
  rcases List.mem_append.mp h with h | h
  · exact ha fault h
  · exact hb fault h

theorem StopsAt.after {a b : List Move} {ending : Except SessionFault Unit}
    (ha : Reloaded a) (hb : StopsAt b ending) : StopsAt (a ++ b) ending := by
  cases ending with
  | ok u => exact ha.append hb
  | error fault =>
    obtain ⟨before, rfl, h⟩ := hb
    exact ⟨a ++ before, (List.append_assoc a before _).symm, ha.append h⟩

theorem reloaded_record (entry : Record) : Reloaded [.record entry] := by
  intro fault h
  simp at h

end Move

section StopsAt

open Move

variable {c : Comparison} {l : LawChecker} {moves : List Move} {ending : Except SessionFault Unit}

/-- An inquiry reloads nothing. -/
theorem Inquiry.Answered.reloaded {α : Type} {inquiry : Inquiry α} {a : α}
    (h : inquiry.Answered moves a) : Reloaded moves := by
  induction h with
  | done a => exact fun _ h => by simp at h
  | ask expression next answer h ih =>
    intro fault hm
    rcases List.mem_cons.mp hm with hm | hm
    · exact absurd hm (by simp)
    · exact ih fault hm

theorem PreparationCourse.stopsAt {p : Preparation} (h : PreparationCourse p moves ending) :
    StopsAt moves ending := by
  cases h with
  | failed fault => exact ⟨[], rfl, fun _ h => by simp at h⟩
  | replayed answers hlen =>
    intro fault hm
    rcases List.mem_cons.mp hm with hm | hm
    · exact absurd hm (by simp)
    · rw [← List.map_uncurry_zip_eq_zipWith] at hm
      obtain ⟨pair, -, hpair⟩ := List.mem_map.mp hm
      cases hpair

theorem DialogueCourse.stopsAt {steps : List Step} (h : DialogueCourse c steps moves ending) :
    StopsAt moves ending := by
  induction h with
  | nil => exact fun _ h => by simp at h
  | passed check more ih =>
    exact StopsAt.after check.reloaded (StopsAt.after (reloaded_record _) ih)
  | cut rest check hne => exact check.reloaded.append (reloaded_record _)

theorem LawCourse.stopsAt {p : Preparation} {law : Law} (h : LawCourse l p law moves ending) :
    StopsAt moves ending := by
  cases h with
  | unprepared h => exact h.stopsAt
  | checked h check => exact h.stopsAt.append (check.reloaded.append (reloaded_record _))

theorem EachCourse.stopsAt {α : Type} {P : α → List Move → Except SessionFault Unit → Prop}
    (hP : ∀ {a moves ending}, P a moves ending → StopsAt moves ending) {as : List α}
    (h : EachCourse P as moves ending) : StopsAt moves ending := by
  induction h with
  | nil => exact fun _ h => by simp at h
  | cons first others ih => exact StopsAt.after (hP first) ih
  | stopped rest first => exact hP first

theorem GroupCourse.stopsAt {p : Preparation} {g : Group} (h : GroupCourse c l p g moves ending) :
    StopsAt moves ending := by
  cases h with
  | unprepared h => exact h.stopsAt
  | prepared h hd hl =>
    have dialogues : Reloaded _ := hd.stopsAt DialogueCourse.stopsAt
    exact StopsAt.after h.stopsAt (StopsAt.after dialogues (hl.stopsAt LawCourse.stopsAt))

theorem SetupCourse.stopsAt {setup : Option Group} (h : SetupCourse c l setup moves ending) :
    StopsAt moves ending := by
  cases h with
  | absent => exact fun _ h => by simp at h
  | present h => exact h.stopsAt

theorem SuiteCourse.stopsAt {suite : Suite} (h : SuiteCourse c l suite moves ending) :
    StopsAt moves ending := by
  cases h with
  | stopped h => exact h.stopsAt
  | suppressed h problem => exact h.stopsAt
  | full h clean groups => exact StopsAt.after h.stopsAt (groups.stopsAt GroupCourse.stopsAt)

/-- **A run stops at the first reload that fails**, and only there with a fault. -/
theorem RunCourse.stopsAt {suites : List Suite} (h : RunCourse c l suites moves ending) :
    StopsAt moves ending :=
  EachCourse.stopsAt SuiteCourse.stopsAt h

end StopsAt

end Rehearsal
