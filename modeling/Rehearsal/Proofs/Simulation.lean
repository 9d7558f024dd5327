/-
  Rehearsal.Proofs.Simulation
  ──────────────────────────────────────
  **Every run follows a course.**

  An act *follows* a kind of course if, whenever it does not fail to write, there
  is a course of this kind that ends as the act does and that accounts for all
  that the act changed: the session gave its answers, and its requests, its
  records and the counts of its records were added to the stage.

  There is one lemma for every function of a run; each is put together from the
  lemmas of the functions it calls.
-/
import Rehearsal.Proofs.Frame

namespace Rehearsal

variable {σ α β : Type} {s : Session σ}

/-! ## §1. Counting records. -/

namespace Tally

@[simp] theorem zero_add (t : Tally) : zero + t = t := by
  apply ext_fields <;> simp [zero]

@[simp] theorem add_zero (t : Tally) : t + zero = t := by
  apply ext_fields <;> simp [zero]

theorem add_assoc (a b c : Tally) : a + b + c = a + (b + c) := by
  apply ext_fields <;> simp [Nat.add_assoc]

theorem foldl_add (ts : List Tally) (t : Tally) :
    ts.foldl (· + ·) t = t + ts.foldl (· + ·) zero := by
  induction ts generalizing t with
  | nil => exact (add_zero t).symm
  | cons u ts ih =>
    simp only [List.foldl_cons]
    rw [ih (t + u), ih (zero + u), zero_add, add_assoc]

theorem sum_cons (t : Tally) (ts : List Tally) : sum (t :: ts) = t + sum ts := by
  show ts.foldl (· + ·) (zero + t) = _
  rw [foldl_add, zero_add]
  rfl

theorem sum_append (a b : List Tally) : sum (a ++ b) = sum a + sum b := by
  induction a with
  | nil => exact (zero_add _).symm
  | cons t a ih => rw [List.cons_append, sum_cons, sum_cons, ih, add_assoc]

/-- What some records add to a tally. -/
def ofRecords (entries : List Record) : Tally := sum (entries.map (·.outcome.delta))

@[simp] theorem ofRecords_nil : ofRecords [] = zero := rfl

theorem ofRecords_cons (entry : Record) (entries : List Record) :
    ofRecords (entry :: entries) = entry.outcome.delta + ofRecords entries :=
  sum_cons _ _

theorem ofRecords_append (a b : List Record) : ofRecords (a ++ b) = ofRecords a + ofRecords b := by
  unfold ofRecords
  rw [List.map_append, sum_append]

/-- Every record counts as one try. -/
theorem tried_ofRecords (entries : List Record) : (ofRecords entries).tried = entries.length := by
  induction entries with
  | nil => rfl
  | cons entry entries ih =>
    have htried : entry.outcome.delta.tried = 1 := by cases entry.outcome <;> rfl
    rw [ofRecords_cons, tried_add, ih, htried, List.length_cons, Nat.add_comm]

/-- No record changes the number of examples. -/
theorem examples_ofRecords (entries : List Record) : (ofRecords entries).examples = 0 := by
  induction entries with
  | nil => rfl
  | cons entry entries ih =>
    have hexamples : entry.outcome.delta.examples = 0 := by cases entry.outcome <;> rfl
    rw [ofRecords_cons, examples_add, ih, hexamples]

/-- **A problem leaves a mark:** errors and failures are both zero exactly if
every record is a success. -/
theorem ofRecords_clean_iff (entries : List Record) :
    (ofRecords entries).errors = 0 ∧ (ofRecords entries).failures = 0
      ↔ ∀ entry ∈ entries, entry.outcome = .success := by
  induction entries with
  | nil => simp [zero]
  | cons entry entries ih =>
    rw [ofRecords_cons, errors_add, failures_add, List.forall_mem_cons, ← ih]
    cases entry.outcome with
    | success => simp [Outcome.delta]
    | failure diagnostic =>
      simp only [Outcome.delta, reduceCtorEq, false_and, iff_false]
      omega
    | error message =>
      simp only [Outcome.delta, reduceCtorEq, false_and, iff_false]
      omega

end Tally

/-! ## §2. What accounts for a change of the stage. -/

/-- The moves account for all that is different between two stages. -/
structure Traced (s : Session σ) (moves : List Move) (before after : Stage σ) : Prop where
  plays : s.Plays before.session moves after.session
  records : after.records = before.records ++ Move.records moves
  tally : after.tally = before.tally + Tally.ofRecords (Move.records moves)
  requests : after.log.filter Event.isRequest
    = before.log.filter Event.isRequest ++ Move.requests moves

namespace Traced

variable {moves a b : List Move} {before mid after : Stage σ}

theorem of_unmoved (h : Unmoved before after) : Traced s [] before after where
  plays := h.session.symm
  records := by simp [h.records]
  tally := by rw [h.tally, Move.records_nil, Tally.ofRecords_nil, Tally.add_zero]
  requests := by simp [h.requests]

theorem trans (ha : Traced s a before mid) (hb : Traced s b mid after) :
    Traced s (a ++ b) before after where
  plays := Session.plays_append.mpr ⟨mid.session, ha.plays, hb.plays⟩
  records := by rw [hb.records, ha.records, Move.records_append, List.append_assoc]
  tally := by rw [hb.tally, ha.tally, Move.records_append, Tally.ofRecords_append, Tally.add_assoc]
  requests := by rw [hb.requests, ha.requests, Move.requests_append, List.append_assoc]

/-- The counters of problems stand still exactly over clean moves. -/
theorem clean_iff (h : Traced s moves before after) :
    (before.tally.errors = after.tally.errors ∧ before.tally.failures = after.tally.failures)
      ↔ Move.Clean moves := by
  unfold Move.Clean
  rw [← Tally.ofRecords_clean_iff, h.tally, Tally.errors_add, Tally.failures_add]
  omega

end Traced

/-! ## §3. Acts that follow courses. -/

/-- If it does not fail to write, the act goes through a course of the kind `P`
and ends as the course does. -/
def Follows (s : Session σ) (act : Act σ α) (P : List Move → Except SessionFault α → Prop) : Prop :=
  ∀ before, (act before).1 ≠ .error .report → ∃ moves ending, P moves ending
    ∧ (act before).1 = ending.mapError .session ∧ Traced s moves before (act before).2

/-- One course after the other; the second one is chosen by what the first one
comes to. -/
def Course.andThen (P : List Move → Except SessionFault α → Prop)
    (Q : α → List Move → Except SessionFault β → Prop) (moves : List Move)
    (ending : Except SessionFault β) : Prop :=
  (∃ fault, P moves (.error fault) ∧ ending = .error fault)
    ∨ ∃ first rest a, P first (.ok a) ∧ Q a rest ending ∧ moves = first ++ rest

namespace Follows

variable {act : Act σ α} {next : α → Act σ β} {P P' : List Move → Except SessionFault α → Prop}
  {Q : α → List Move → Except SessionFault β → Prop} {R : List Move → Except SessionFault β → Prop}

theorem mono (h : Follows s act P) (hP : ∀ moves ending, P moves ending → P' moves ending) :
    Follows s act P' := by
  intro before hreport
  obtain ⟨moves, ending, hp, hrest⟩ := h before hreport
  exact ⟨moves, ending, hP moves ending hp, hrest⟩

theorem pure (a : α) :
    Follows s (Pure.pure a : Act σ α) (fun moves ending => moves = [] ∧ ending = .ok a) :=
  fun _ _ => ⟨[], .ok a, ⟨rfl, rfl⟩, rfl, .of_unmoved ⟨rfl, rfl, rfl, rfl⟩⟩

/-- An act that ends well went through a course that ends well. -/
theorem of_ok (h : Follows s act P) {before after : Stage σ} {a : α}
    (hact : act before = (.ok a, after)) : ∃ moves, P moves (.ok a) ∧ Traced s moves before after := by
  have hbefore := h before
  rw [hact] at hbefore
  obtain ⟨moves, ending, hp, hend, htraced⟩ := hbefore (by simp)
  cases ending with
  | error fault => cases hend
  | ok a' =>
    obtain rfl : a = a' := Except.ok.inj hend
    exact ⟨moves, hp, htraced⟩

/-- An act that ends with another fault than a failed write went through a course
that ends with this fault. -/
theorem of_error (h : Follows s act P) {before after : Stage σ} {fault : RunFault}
    (hact : act before = (.error fault, after)) (hreport : fault ≠ .report) :
    ∃ moves sessionFault, fault = .session sessionFault ∧ P moves (.error sessionFault)
      ∧ Traced s moves before after := by
  have hbefore := h before
  rw [hact] at hbefore
  obtain ⟨moves, ending, hp, hend, htraced⟩ := hbefore fun heq => hreport (Except.error.inj heq)
  cases ending with
  | ok a => cases hend
  | error sessionFault => exact ⟨moves, sessionFault, Except.error.inj hend, hp, htraced⟩

theorem bind (h : Follows s act P) (hn : ∀ a, Follows s (next a) (Q a)) :
    Follows s (act >>= next) (Course.andThen P Q) := by
  intro before
  show (Act.bind act next before).1 ≠ _ → ∃ moves ending, Course.andThen P Q moves ending
    ∧ (Act.bind act next before).1 = _ ∧ Traced s moves before (Act.bind act next before).2
  unfold Act.bind
  cases hr : act before with
  | mk result mid =>
    cases result with
    | error fault =>
      intro hreport
      obtain ⟨moves, sessionFault, rfl, hp, htraced⟩ := h.of_error hr (by simpa using hreport)
      exact ⟨moves, .error sessionFault, .inl ⟨_, hp, rfl⟩, rfl, htraced⟩
    | ok a =>
      intro hreport
      obtain ⟨first, hp, htraced⟩ := h.of_ok hr
      obtain ⟨rest, ending, hq, hend, htraced'⟩ := hn a mid hreport
      exact ⟨first ++ rest, ending, .inr ⟨first, rest, a, hp, hq, rfl⟩, hend,
        htraced.trans htraced'⟩

/-- Writing goes before a course without a trace in it. -/
theorem silent_bind (h : (Frame.unmoved σ).Holds act) (hn : ∀ a, Follows s (next a) R) :
    Follows s (act >>= next) R := by
  intro before
  show (Act.bind act next before).1 ≠ _ → ∃ moves ending, R moves ending
    ∧ (Act.bind act next before).1 = _ ∧ Traced s moves before (Act.bind act next before).2
  obtain ⟨unmoved, faults⟩ := h before
  unfold Act.bind
  cases hr : act before with
  | mk result mid =>
    rw [hr] at unmoved faults
    cases result with
    | error fault =>
      intro hreport
      have hfault : fault = .report := faults fault rfl
      exact absurd (congrArg Except.error hfault) hreport
    | ok a =>
      intro hreport
      obtain ⟨moves, ending, hr, hend, htraced⟩ := hn a mid hreport
      exact ⟨moves, ending, hr, hend, (Traced.of_unmoved unmoved).trans htraced⟩

theorem each {act : α → Act σ Unit} {P : α → List Move → Except SessionFault Unit → Prop}
    (h : ∀ a, Follows s (act a) (P a)) (as : List α) :
    Follows s (Act.each act as) (EachCourse P as) := by
  induction as with
  | nil =>
    refine (Follows.pure ()).mono ?_
    rintro moves ending ⟨rfl, rfl⟩
    exact .nil
  | cons a as ih =>
    refine (Follows.bind (h a) fun _ => ih).mono ?_
    rintro moves ending (⟨fault, first, rfl⟩ | ⟨first, rest, u, hfirst, hrest, rfl⟩)
    · exact .stopped as first
    · exact .cons hfirst hrest

end Follows

/-! ## §4. The functions of a run. -/

/-- A request of which nothing is recorded. -/
theorem Traced.of_request {move : Move} {event : Event} {before : Stage σ} {session : σ}
    (hplays : s.Plays before.session [move] session) (hrecords : Move.records [move] = [])
    (hrequests : Move.requests [move] = [event]) (hevent : event.isRequest = true) :
    Traced s [move] before { before with session := session, log := before.log ++ [event] } where
  plays := hplays
  records := by simp [hrecords]
  tally := by simp [hrecords]
  requests := by simp [hrequests, hevent]

theorem follows_reload :
    Follows s (Act.reload s) (fun moves ending => moves = [.reload ending]) := by
  intro before _
  unfold Act.reload
  cases h : s.reload before.session with
  | mk result session =>
    have hplays : s.Plays before.session [.reload result] session := by
      simp [Session.Plays, h]
    cases result with
    | ok u => exact ⟨_, .ok (), rfl, rfl, .of_request hplays rfl rfl rfl⟩
    | error fault => exact ⟨_, .error fault, rfl, rfl, .of_request hplays rfl rfl rfl⟩

theorem follows_ask (expression : Text) :
    Follows s (Act.ask s expression)
      (fun moves ending => ∃ answer, moves = [.ask expression answer] ∧ ending = .ok answer) := by
  intro before _
  refine ⟨_, _, ⟨(s.evaluate before.session expression).1, rfl, rfl⟩, rfl, ?_⟩
  exact .of_request ⟨rfl, rfl⟩ rfl rfl rfl

theorem follows_converse (inquiry : Inquiry α) :
    Follows s (Act.converse s inquiry)
      (fun moves ending => ∃ a, ending = .ok a ∧ inquiry.Answered moves a) := by
  induction inquiry with
  | done a =>
    refine (Follows.pure a).mono ?_
    rintro moves ending ⟨rfl, rfl⟩
    exact ⟨a, rfl, .done a⟩
  | ask expression next ih =>
    refine (Follows.bind (follows_ask expression) ih).mono ?_
    rintro moves ending (⟨fault, ⟨answer, -, h⟩, -⟩ |
      ⟨first, rest, answer, ⟨answer', rfl, h⟩, ⟨a, rfl, hrest⟩, rfl⟩)
    · exact absurd h (by simp)
    · obtain rfl : answer = answer' := Except.ok.inj h
      exact ⟨a, rfl, .ask expression next answer hrest⟩

theorem follows_record (place : Place) (expression : Text) (outcome : Outcome) :
    Follows s (Report.record place expression outcome) (fun moves ending =>
      moves = [.record ⟨place, expression, outcome⟩] ∧ ending = .ok ()) := by
  refine Follows.silent_bind (Frame.unmoved_writes.tell place expression outcome) fun _ => ?_
  intro before _
  refine ⟨_, .ok (), ⟨rfl, rfl⟩, rfl, rfl, rfl, ?_, ?_⟩
  · show before.tally + outcome.delta = _
    simp [Tally.ofRecords_cons]
  · show before.log.filter Event.isRequest = _
    simp

/-- The replay of a setup: every expression, whatever is answered. -/
theorem follows_replay (expressions : List Text) :
    Follows s (Act.each (fun e => do let _ ← Act.ask s e) expressions) (fun moves ending =>
      ∃ answers : List Answer, answers.length = expressions.length
        ∧ moves = List.zipWith .ask expressions answers ∧ ending = .ok ()) := by
  induction expressions with
  | nil =>
    refine (Follows.pure ()).mono ?_
    rintro moves ending ⟨rfl, rfl⟩
    exact ⟨[], rfl, rfl, rfl⟩
  | cons e expressions ih =>
    refine (Follows.bind (Follows.bind (follows_ask e) fun _ => Follows.pure ()) fun _ => ih).mono ?_
    rintro moves ending (⟨fault, h, -⟩ | ⟨first, rest, u, h, ⟨answers, hlen, rfl, rfl⟩, rfl⟩)
    · rcases h with ⟨fault', ⟨answer, -, h⟩, -⟩ | ⟨_, _, _, -, ⟨-, h⟩, -⟩ <;> exact absurd h (by simp)
    · rcases h with ⟨fault', ⟨answer, -, h⟩, -⟩ | ⟨_, _, _, ⟨answer, rfl, -⟩, ⟨rfl, -⟩, rfl⟩
      · exact absurd h (by simp)
      · exact ⟨answer :: answers, by simp [hlen], rfl, rfl⟩

namespace Rehearser

variable (r : Rehearser σ)

theorem prepare_follows (p : Preparation) :
    Follows r.session (r.prepare p) (PreparationCourse p) := by
  refine (Follows.bind follows_reload fun _ => follows_replay p.expressions).mono ?_
  rintro moves ending (⟨fault, rfl, rfl⟩ | ⟨first, rest, u, rfl, ⟨answers, hlen, rfl, rfl⟩, rfl⟩)
  · exact .failed fault
  · exact .replayed answers hlen

theorem runSteps_follows (steps : List Step) :
    Follows r.session (r.runSteps steps) (DialogueCourse r.comparison steps) := by
  induction steps with
  | nil =>
    refine (Follows.pure ()).mono ?_
    rintro moves ending ⟨rfl, rfl⟩
    exact .nil
  | cons step rest ih =>
    -- Behind the check: its outcome is recorded, and only a success goes on.
    have hn : ∀ expression outcome, Follows r.session
        (Report.record step.place expression outcome >>= fun _ =>
          if outcome.isSuccess then r.runSteps rest else pure ())
        (fun moves ending => ∃ more, moves = .record ⟨step.place, expression, outcome⟩ :: more
          ∧ if outcome.isSuccess then DialogueCourse r.comparison rest more ending
            else more = [] ∧ ending = .ok ()) := by
      intro expression outcome
      by_cases h : outcome.isSuccess = true
      · simp only [h, if_true]
        refine (Follows.bind (follows_record step.place expression outcome) fun _ => ih).mono ?_
        rintro moves ending (⟨fault, ⟨-, h⟩, -⟩ | ⟨first, more, u, ⟨rfl, -⟩, hmore, rfl⟩)
        · exact absurd h (by simp)
        · exact ⟨more, rfl, hmore⟩
      · simp only [h]
        refine (Follows.bind (follows_record step.place expression outcome)
          fun _ => Follows.pure ()).mono ?_
        rintro moves ending (⟨fault, ⟨-, h⟩, -⟩ | ⟨first, more, u, ⟨rfl, -⟩, hmore, rfl⟩)
        · exact absurd h (by simp)
        · exact ⟨more, rfl, hmore⟩
    refine (Follows.bind (follows_converse _) fun result =>
      hn (verdictRecord step result).1 (verdictRecord step result).2).mono ?_
    rintro moves ending (⟨fault, ⟨a, h, -⟩, -⟩ |
      ⟨asks, _, result, ⟨result', h, check⟩, ⟨more, rfl, hmore⟩, rfl⟩)
    · exact absurd h (by simp)
    · obtain rfl : result = result' := Except.ok.inj h
      cases result with
      | error blame =>
        obtain ⟨rfl, rfl⟩ := hmore
        exact .cut rest check (by simp)
      | ok verdict =>
        cases verdict with
        | «match» => exact .passed check hmore
        | mismatch diagnostic =>
          obtain ⟨rfl, rfl⟩ := hmore
          exact .cut rest check (by simp)

theorem runLaw_follows (p : Preparation) (law : Law) :
    Follows r.session (r.runLaw p law) (LawCourse r.laws p law) := by
  refine (Follows.bind (r.prepare_follows p) fun _ => Follows.bind (follows_converse _)
    fun outcome => follows_record law.place law.expression outcome).mono ?_
  rintro moves ending (⟨fault, h, rfl⟩ | ⟨first, rest, u, h, hrest, rfl⟩)
  · exact .unprepared h
  · rcases hrest with ⟨fault, ⟨_, h', -⟩, -⟩ | ⟨asks, _, outcome, ⟨_, h', check⟩, ⟨rfl, rfl⟩, rfl⟩
    · exact absurd h' (by simp)
    · obtain rfl := Except.ok.inj h'
      exact .checked h check

theorem runGroup_follows (p : Preparation) (g : Group) :
    Follows r.session (r.runGroup p g) (GroupCourse r.comparison r.laws p g) := by
  refine Follows.silent_bind Frame.unmoved_writes.showProgress fun _ => ?_
  refine (Follows.bind (r.prepare_follows p) fun _ =>
    Follows.bind (Follows.each r.runSteps_follows g.dialogues) fun _ =>
      Follows.each (r.runLaw_follows p) g.laws).mono ?_
  rintro moves ending (⟨fault, h, rfl⟩ | ⟨first, rest, u, h, hrest, rfl⟩)
  · exact .unprepared h
  · rcases hrest with ⟨fault, hd, -⟩ | ⟨dialogues, laws, u, hd, hl, rfl⟩
    · exact absurd (hd.ending_eq DialogueCourse.ending_eq) (by simp)
    · exact .prepared h hd hl

/-- What is run of a suite before its groups. -/
def runSetup (setup : Option Group) : Act σ Unit :=
  match setup with
  | some g => r.runGroup .reload g
  | none => pure ()

theorem runSetup_follows (setup : Option Group) :
    Follows r.session (r.runSetup setup) (SetupCourse r.comparison r.laws setup) := by
  cases setup with
  | some g => exact (r.runGroup_follows .reload g).mono fun _ _ h => .present h
  | none =>
    refine (Follows.pure ()).mono ?_
    rintro moves ending ⟨rfl, rfl⟩
    exact .absent

/-- What is run of a suite behind its setup; `tally` is from before the setup. -/
def runGroups (suite : Suite) (tally : Tally) : Act σ Unit := do
  let after ← Act.look (·.tally)
  if tally.errors = after.errors ∧ tally.failures = after.failures then
    Act.each (r.runGroup (.replay (suite.setup.getD []))) suite.groups

theorem runSuite_eq (suite : Suite) (before : Stage σ) :
    r.runSuite suite before
      = (r.runSetup suite.setup >>= fun _ => r.runGroups suite before.tally) before := by
  unfold runSuite runSetup runGroups
  cases suite.setup <;> rfl

theorem runSuite_follows (suite : Suite) :
    Follows r.session (r.runSuite suite) (SuiteCourse r.comparison r.laws suite) := by
  intro before
  rw [r.runSuite_eq suite before]
  show (Act.bind _ _ before).1 ≠ _ → ∃ moves ending, SuiteCourse _ _ suite moves ending
    ∧ (Act.bind _ _ before).1 = _ ∧ Traced r.session moves before (Act.bind _ _ before).2
  have hsetup := r.runSetup_follows suite.setup
  unfold Act.bind
  cases hr : r.runSetup suite.setup before with
  | mk result mid =>
    cases result with
    | error fault =>
      intro hreport
      obtain ⟨moves, sessionFault, rfl, h, htraced⟩ := hsetup.of_error hr (by simpa using hreport)
      exact ⟨moves, _, .stopped h, rfl, htraced⟩
    | ok u =>
      intro hreport
      obtain ⟨first, h, htraced⟩ := hsetup.of_ok hr
      -- The tally has moved exactly if the setup was not clean.
      by_cases hclean : Move.Clean first
      · have hgroups : r.runGroups suite before.tally mid
            = Act.each (r.runGroup (.replay (suite.setup.getD []))) suite.groups mid := by
          show (if _ then _ else _ : Act σ Unit) mid = _
          rw [if_pos (htraced.clean_iff.mpr hclean)]
        dsimp only at hreport ⊢
        rw [hgroups] at hreport ⊢
        obtain ⟨rest, ending, hrest, hend', htraced'⟩ :=
          Follows.each (r.runGroup_follows (.replay (suite.setup.getD []))) suite.groups mid hreport
        exact ⟨first ++ rest, ending, .full h hclean hrest, hend', htraced.trans htraced'⟩
      · have hgroups : r.runGroups suite before.tally mid = (.ok (), mid) := by
          show (if _ then _ else _ : Act σ Unit) mid = _
          rw [if_neg fun hstill => hclean (htraced.clean_iff.mp hstill)]
          rfl
        dsimp only
        rw [hgroups]
        exact ⟨first, .ok (), .suppressed h hclean, rfl, htraced⟩

end Rehearser

end Rehearsal
