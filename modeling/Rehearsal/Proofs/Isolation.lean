/-
  Rehearsal.Proofs.Isolation
  ──────────────────────────────────────
  **Suites, groups and laws do not touch one another.**

  Where a reload always succeeds and always leads to the same state, what a law
  records does not depend on where it stands, and no more does what a group or a
  suite records.  So the suites, the groups in them and the laws in these can be
  arranged at will: the same outcomes are recorded and counted.

    • `Isolated` — an act records the same entries wherever it is done,
    • `Isolated.of_restart` — as does every act that starts with a reload,
    • `Agree.each` — rearranging what is done only rearranges the entries,
    • `Rehearser.rehearse_rearranged` — the runs of a list and of its rearrangement.
-/
import Rehearsal.Proofs.Agenda
import Rehearsal.Proofs.Coverage

namespace Rehearsal

variable {σ α : Type}

/-! ## §1. Rearranging. -/

/-- The same members in any order, each up to `R`. -/
inductive Shuffled (R : α → α → Prop) : List α → List α → Prop
  | nil : Shuffled R [] []
  | cons {a b : α} {as bs : List α} (head : R a b) (tail : Shuffled R as bs) :
      Shuffled R (a :: as) (b :: bs)
  | swap (a b : α) (as : List α) : Shuffled R (a :: b :: as) (b :: a :: as)
  | trans {as bs cs : List α} (first : Shuffled R as bs) (second : Shuffled R bs cs) :
      Shuffled R as cs

/-- The dialogues are the same, in the same order; the laws are the same, in any
order and anywhere between the dialogues. -/
structure Group.Rearranged (g g' : Group) : Prop where
  dialogues : g.dialogues = g'.dialogues
  laws : g.laws.Perm g'.laws

/-- The setup is rearranged in itself, the groups also among each other. -/
structure Suite.Rearranged (s s' : Suite) : Prop where
  name : s.name = s'.name
  setup : Option.Rel Group.Rearranged s.setup s'.setup
  groups : Shuffled Group.Rearranged s.groups s'.groups

namespace Shuffled

theorem of_perm {as bs : List α} (h : as.Perm bs) : Shuffled Eq as bs := by
  induction h with
  | nil => exact .nil
  | cons a h ih => exact .cons rfl ih
  | swap a b as => exact .swap b a as
  | trans h h' ih ih' => exact .trans ih ih'

theorem total_eq {R : α → α → Prop} {f : α → Nat} {as bs : List α} (h : Shuffled R as bs)
    (hR : ∀ a b, R a b → f a = f b) : total f as = total f bs := by
  induction h with
  | nil => rfl
  | cons head tail ih =>
    show f _ + total f _ = f _ + total f _
    rw [hR _ _ head, ih]
  | swap a b as => exact Nat.add_left_comm _ _ _
  | trans first second ih ih' => exact ih.trans ih'

end Shuffled

theorem Group.Rearranged.size_eq {g g' : Group} (h : g.Rearranged g') : g.size = g'.size := by
  have hlaws := (Shuffled.of_perm h.laws).total_eq (f := fun _ => 1) fun _ _ _ => rfl
  rw [g.size_eq, g'.size_eq, h.dialogues, hlaws]

theorem Suite.Rearranged.size_eq {s s' : Suite} (h : s.Rearranged s') : s.size = s'.size := by
  have hsetup : total Group.size s.setup.toList = total Group.size s'.setup.toList := by
    have hsetup := h.setup
    generalize s.setup = setup, s'.setup = setup' at hsetup ⊢
    cases hsetup with
    | none => rfl
    | some hg => exact congrArg (· + 0) hg.size_eq
  unfold Suite.size
  rw [total_append, total_append, hsetup, h.groups.total_eq fun _ _ => Group.Rearranged.size_eq]

/-! ## §2. Acts that record the same everywhere. -/

/-- On every stage whose console takes everything, the act ends well, records
these entries and counts them. -/
def Isolated (act : Act σ Unit) (entries : List Record) : Prop :=
  ∀ before, before.console.room = none → ∃ after, act before = (.ok (), after)
    ∧ after.console.room = none
    ∧ after.records = before.records ++ entries
    ∧ after.tally = before.tally + Tally.ofRecords entries

namespace Isolated

variable {act : Act σ Unit} {entries : List Record}

theorem nothing : Isolated (pure () : Act σ Unit) [] := by
  intro before hroom
  exact ⟨before, rfl, hroom, (List.append_nil _).symm, (Tally.add_zero _).symm⟩

theorem bind {next : Unit → Act σ Unit} {more : List Record} (h : Isolated act entries)
    (hn : Isolated (next ()) more) : Isolated (act >>= next) (entries ++ more) := by
  intro before hroom
  obtain ⟨mid, hact, hroom, hrecords, htally⟩ := h before hroom
  obtain ⟨after, hnext, hroom', hrecords', htally'⟩ := hn mid hroom
  refine ⟨after, ?_, hroom', ?_, ?_⟩
  · show Act.bind act next before = _
    rw [Act.bind, hact]
    exact hnext
  · rw [hrecords', hrecords, List.append_assoc]
  · rw [htally', htally, Tally.ofRecords_append, Tally.add_assoc]

/-- An act does not record two things. -/
theorem unique (start : σ) (h : Isolated act entries) {entries' : List Record}
    (h' : Isolated act entries') : entries = entries' := by
  obtain ⟨after, hact, -, hrecords, -⟩ := h { session := start } rfl
  obtain ⟨after', hact', -, hrecords', -⟩ := h' { session := start } rfl
  obtain rfl : after = after' := (Prod.mk.inj (hact.symm.trans hact')).2
  exact hrecords.symm.trans hrecords'

/-- **What starts with a reload does not see what was before.**  The reload leads
to the state `start` from everywhere, and from there a session has one course. -/
theorem of_restart {s : Session σ} {start : σ} (hreload : ∀ state, s.reload state = (.ok (), start))
    {P : List Move → Except SessionFault Unit → Prop} (follows : Follows s act P)
    (unlimited : (Frame.unlimited σ).Holds act) (determined : Determined s P)
    (stopsAt : ∀ moves ending, P moves ending → Move.StopsAt moves ending)
    (restarts : ∀ moves ending, P moves ending → ∃ result rest, moves = .reload result :: rest) :
    ∃ entries, Isolated act entries := by
  -- No course ends with a fault, for its last move would be a reload that fails.
  have ends_well : ∀ before after moves ending, P moves ending → s.Plays before moves after →
      ending = .ok () := by
    intro before after moves ending hp hplays
    cases ending with
    | ok u => rfl
    | error fault =>
      obtain ⟨earlier, rfl, -⟩ := stopsAt _ _ hp
      obtain ⟨mid, -, hlast, -⟩ := Session.plays_append.mp hplays
      rw [hreload] at hlast
      cases hlast
  have course : ∀ before : Stage σ, before.console.room = none → ∃ after moves,
      act before = (.ok (), after) ∧ P moves (.ok ()) ∧ Traced s moves before after := by
    intro before hroom
    obtain ⟨moves, ending, hp, hend, htraced⟩ :=
      follows before fun hreport => (unlimited before).2 .report hreport hroom rfl
    obtain rfl := ends_well _ _ _ _ hp htraced.plays
    exact ⟨(act before).2, moves, Prod.ext hend rfl, hp, htraced⟩
  obtain ⟨after, moves, -, hp, htraced⟩ := course { session := start } rfl
  refine ⟨Move.records moves, ?_⟩
  intro before hroom
  obtain ⟨after', moves', hact, hp', htraced'⟩ := course before hroom
  have hplays : s.Plays start moves' after'.session := by
    obtain ⟨result, rest, rfl⟩ := restarts _ _ hp'
    have hplays := htraced'.plays
    unfold Session.Plays at hplays ⊢
    rwa [hreload] at hplays ⊢
  obtain ⟨rfl, -⟩ := determined hp hp' htraced.plays hplays
  refine ⟨after', hact, ?_, htraced'.records, htraced'.tally⟩
  have hkept := (unlimited before).1 hroom
  rwa [hact] at hkept

end Isolated

/-! ## §3. Acts that record the same up to its order. -/

/-- Both acts record the same everywhere, the one in another order than the other. -/
def Agree (act act' : Act σ Unit) : Prop :=
  ∃ entries entries', Isolated act entries ∧ Isolated act' entries' ∧ entries.Perm entries'

namespace Agree

variable {act act' act'' : Act σ Unit}

theorem of_isolated {entries : List Record} (h : Isolated act entries) : Agree act act :=
  ⟨entries, entries, h, h, .refl _⟩

theorem trans (start : σ) (h : Agree act act') (h' : Agree act' act'') : Agree act act'' := by
  obtain ⟨first, second, hfirst, hsecond, hperm⟩ := h
  obtain ⟨second', third, hsecond', hthird, hperm'⟩ := h'
  obtain rfl := hsecond.unique start hsecond'
  exact ⟨first, third, hfirst, hthird, hperm.trans hperm'⟩

theorem bind {next next' : Unit → Act σ Unit} (h : Agree act act')
    (hn : Agree (next ()) (next' ())) : Agree (act >>= next) (act' >>= next') := by
  obtain ⟨first, first', hfirst, hfirst', hperm⟩ := h
  obtain ⟨second, second', hsecond, hsecond', hperm'⟩ := hn
  exact ⟨_, _, hfirst.bind hsecond, hfirst'.bind hsecond', hperm.append hperm'⟩

/-- **Rearranging what is done only rearranges what is recorded.** -/
theorem each (start : σ) {R : α → α → Prop} {act : α → Act σ Unit} {as bs : List α}
    (h : Shuffled R as bs) (hact : ∀ a, Agree (act a) (act a))
    (hR : ∀ a b, R a b → Agree (act a) (act b)) : Agree (Act.each act as) (Act.each act bs) := by
  induction h with
  | nil => exact .of_isolated .nothing
  | cons head tail ih => exact (hR _ _ head).bind ih
  | swap a b as =>
    obtain ⟨first, -, hfirst, -⟩ := hact a
    obtain ⟨second, -, hsecond, -⟩ := hact b
    have rest : ∃ entries, Isolated (Act.each act as) entries := by
      induction as with
      | nil => exact ⟨[], .nothing⟩
      | cons c as ih =>
        obtain ⟨entries, -, hentries, -⟩ := hact c
        obtain ⟨more, hmore⟩ := ih
        exact ⟨entries ++ more, hentries.bind hmore⟩
    obtain ⟨entries, hentries⟩ := rest
    exact ⟨_, _, hfirst.bind (hsecond.bind hentries), hsecond.bind (hfirst.bind hentries),
      List.perm_append_comm_assoc first second entries⟩
  | trans first second ih ih' => exact ih.trans start ih'

end Agree

/-! ## §4. Laws, groups and suites. -/

theorem PreparationCourse.restarts {p : Preparation} {moves : List Move}
    {ending : Except SessionFault Unit} (h : PreparationCourse p moves ending) :
    ∃ result rest, moves = .reload result :: rest := by
  cases h with
  | failed fault => exact ⟨_, _, rfl⟩
  | replayed answers hlen => exact ⟨_, _, rfl⟩

theorem LawCourse.restarts {l : LawChecker} {p : Preparation} {law : Law} {moves : List Move}
    {ending : Except SessionFault Unit} (h : LawCourse l p law moves ending) :
    ∃ result rest, moves = .reload result :: rest := by
  cases h with
  | unprepared h => exact h.restarts
  | checked h check =>
    obtain ⟨result, rest, rfl⟩ := h.restarts
    exact ⟨_, _, rfl⟩

theorem GroupCourse.restarts {c : Comparison} {l : LawChecker} {p : Preparation} {g : Group}
    {moves : List Move} {ending : Except SessionFault Unit}
    (h : GroupCourse c l p g moves ending) : ∃ result rest, moves = .reload result :: rest := by
  cases h with
  | unprepared h => exact h.restarts
  | prepared h hd hl =>
    obtain ⟨result, rest, rfl⟩ := h.restarts
    exact ⟨_, _, rfl⟩

/-- The group without its laws. -/
def Group.spoken (g : Group) : Group := g.dialogues.map .dialogue

theorem Group.dialogues_spoken (g : Group) : g.spoken.dialogues = g.dialogues := by
  unfold spoken
  induction g.dialogues with
  | nil => rfl
  | cons steps rest ih => exact congrArg (steps :: ·) ih

theorem Group.laws_spoken (g : Group) : g.spoken.laws = [] := by
  unfold spoken
  induction g.dialogues with
  | nil => rfl
  | cons steps rest ih => exact ih

namespace Rehearser

variable (r : Rehearser σ)

/-- The laws of a group come behind all the rest of it. -/
theorem runGroup_eq (p : Preparation) (g : Group) :
    r.runGroup p g = r.runGroup p g.spoken >>= fun _ => Act.each (r.runLaw p) g.laws := by
  unfold runGroup
  rw [g.dialogues_spoken, g.laws_spoken, Act.bind_assoc]
  congr 1
  funext _
  rw [Act.bind_assoc]
  congr 1
  funext _
  rw [Act.bind_assoc]
  rfl

/-- All that matters of a preparation is what it evaluates. -/
theorem runGroup_congr {p p' : Preparation} (h : p.expressions = p'.expressions) :
    r.runGroup p = r.runGroup p' := by
  have hprepare : r.prepare p = r.prepare p' := by
    unfold prepare
    rw [h]
  have hlaw : r.runLaw p = r.runLaw p' := by
    funext law
    unfold runLaw
    rw [hprepare]
  funext g
  unfold runGroup
  rw [hprepare, hlaw]

section Restarting

variable {start : σ} (hreload : ∀ state, r.session.reload state = (.ok (), start))
include hreload

theorem runLaw_agree (p : Preparation) (law : Law) : Agree (r.runLaw p law) (r.runLaw p law) := by
  obtain ⟨entries, h⟩ := Isolated.of_restart hreload (r.runLaw_follows p law)
    ((Frame.unlimited_runs r.session).runLaw p law) (LawCourse.determined p law)
    (fun _ _ => LawCourse.stopsAt) (fun _ _ => LawCourse.restarts)
  exact .of_isolated h

theorem runGroup_agree (p : Preparation) {g g' : Group} (h : g.Rearranged g') :
    Agree (r.runGroup p g) (r.runGroup p g') := by
  have hspoken : g.spoken = g'.spoken := congrArg (List.map Item.dialogue) h.dialogues
  rw [r.runGroup_eq p g, r.runGroup_eq p g', hspoken]
  obtain ⟨entries, hentries⟩ := Isolated.of_restart hreload (r.runGroup_follows p g'.spoken)
    ((Frame.unlimited_runs r.session).runGroup p g'.spoken) (GroupCourse.determined p g'.spoken)
    (fun _ _ => GroupCourse.stopsAt) (fun _ _ => GroupCourse.restarts)
  refine (Agree.of_isolated hentries).bind ?_
  refine Agree.each start (Shuffled.of_perm h.laws) (r.runLaw_agree hreload p) ?_
  rintro law _ rfl
  exact r.runLaw_agree hreload p law

theorem runSetup_agree {setup setup' : Option Group}
    (h : Option.Rel Group.Rearranged setup setup') :
    Agree (r.runSetup setup) (r.runSetup setup') := by
  cases h with
  | none => exact .of_isolated .nothing
  | some hg => exact r.runGroup_agree hreload .reload hg

end Restarting

/-- Whether the groups of a suite are run is decided by what its setup records. -/
theorem runSuite_isolated {suite : Suite} {first second : List Record}
    (hsetup : Isolated (r.runSetup suite.setup) first)
    (hgroups : Isolated (Act.each (r.runGroup (.replay (suite.setup.getD []))) suite.groups) second) :
    (AllSucceed first → Isolated (r.runSuite suite) (first ++ second))
      ∧ (¬ AllSucceed first → Isolated (r.runSuite suite) first) := by
  -- The counters of problems stand still exactly over a setup without a problem.
  have still : ∀ before mid : Tally, mid = before + Tally.ofRecords first →
      ((before.errors = mid.errors ∧ before.failures = mid.failures) ↔ AllSucceed first) := by
    rintro before mid rfl
    unfold AllSucceed
    rw [← Tally.ofRecords_clean_iff, Tally.errors_add, Tally.failures_add]
    omega
  constructor
  · intro clean before hroom
    have hfull : Isolated (r.runSetup suite.setup >>= fun _ =>
        Act.each (r.runGroup (.replay (suite.setup.getD []))) suite.groups) (first ++ second) :=
      hsetup.bind hgroups
    obtain ⟨after, hboth, hrest⟩ := hfull before hroom
    refine ⟨after, ?_, hrest⟩
    obtain ⟨mid, hact, -, -, htally⟩ := hsetup before hroom
    rw [r.runSuite_eq suite before]
    change Act.bind _ _ before = _ at hboth
    show Act.bind _ _ before = _
    unfold Act.bind at hboth ⊢
    rw [hact] at hboth ⊢
    show (if _ then _ else _ : Act σ Unit) mid = _
    rw [if_pos ((still _ _ htally).mpr clean)]
    exact hboth
  · intro problem before hroom
    obtain ⟨mid, hact, hrest⟩ := hsetup before hroom
    refine ⟨mid, ?_, hrest⟩
    rw [r.runSuite_eq suite before]
    show Act.bind _ _ before = _
    unfold Act.bind
    rw [hact]
    show (if _ then _ else _ : Act σ Unit) mid = _
    rw [if_neg fun h => problem ((still _ _ hrest.2.2).mp h)]
    rfl

section Restarting

variable {start : σ} (hreload : ∀ state, r.session.reload state = (.ok (), start))
include hreload

theorem runSuite_agree {suite suite' : Suite} (h : suite.Rearranged suite') :
    Agree (r.runSuite suite) (r.runSuite suite') := by
  -- A rearranged setup is replayed as before, for no law is part of a replay.
  have hreplay : r.runGroup (.replay (suite.setup.getD []))
      = r.runGroup (.replay (suite'.setup.getD [])) := by
    refine r.runGroup_congr ?_
    have hsetup := h.setup
    generalize suite.setup = setup, suite'.setup = setup' at hsetup ⊢
    cases hsetup with
    | none => rfl
    | some hg => simp only [Option.getD_some, Preparation.expressions, hg.dialogues]
  obtain ⟨first, first', hfirst, hfirst', hperm⟩ := r.runSetup_agree hreload h.setup
  obtain ⟨second, second', hsecond, hsecond', hperm'⟩ := Agree.each start h.groups
    (fun g => r.runGroup_agree hreload (.replay (suite.setup.getD [])) ⟨rfl, .refl _⟩)
    fun _ _ => r.runGroup_agree hreload _
  rw [hreplay] at hsecond'
  obtain ⟨full, suppressed⟩ := r.runSuite_isolated hfirst hsecond
  obtain ⟨full', suppressed'⟩ := r.runSuite_isolated hfirst' hsecond'
  have hclean : AllSucceed first ↔ AllSucceed first' :=
    ⟨fun hall entry hentry => hall entry (hperm.mem_iff.mpr hentry),
      fun hall entry hentry => hall entry (hperm.mem_iff.mp hentry)⟩
  by_cases clean : AllSucceed first
  · exact ⟨_, _, full clean, full' (hclean.mp clean), hperm.append hperm'⟩
  · exact ⟨_, _, suppressed clean, suppressed' fun h => clean (hclean.mpr h), hperm⟩

end Restarting

end Rehearser

/-! ## §5. Whole runs. -/

theorem Tally.add_left_comm (a b c : Tally) : a + (b + c) = b + (a + c) := by
  apply ext_fields <;> simp [Nat.add_left_comm]

theorem Tally.ofRecords_perm {entries entries' : List Record} (h : entries.Perm entries') :
    ofRecords entries = ofRecords entries' := by
  induction h with
  | nil => rfl
  | cons entry h ih => rw [ofRecords_cons, ofRecords_cons, ih]
  | swap a b entries => simp only [ofRecords_cons, add_left_comm]
  | trans h h' ih ih' => exact ih.trans ih'

/-- A run of suites that record `entries` everywhere. -/
theorem Rehearser.rehearse_isolated (r : Rehearser σ) (session : σ) (console : Console)
    (hroom : console.room = none) {suites : List Suite} {entries : List Record}
    (h : Isolated (Act.each r.runSuite suites) entries) :
    (r.rehearse session console suites).1
        = .ok (.ofExamples (countExamples suites) + .ofRecords entries)
      ∧ (r.rehearse session console suites).2.records = entries := by
  obtain ⟨mid, hact, hroom', hrecords, htally⟩ := h
    { session := session, console := console, tally := .ofExamples (countExamples suites) } hroom
  have hrun : r.rehearse session console suites
      = (do Report.showTally; Act.look (·.tally) : Act σ Tally) mid := by
    show Act.bind _ _ _ = _
    rw [Act.bind, hact]
  have writes := (Frame.unlimited_runs r.session).bind
    (Frame.unlimited_runs r.session).showTally fun _ => (Frame.unlimited_runs r.session).tally
  obtain ⟨after, hlast, unmoved⟩ :=
    showTally_last mid fun hreport => (writes mid).2 .report hreport hroom' rfl
  rw [hrun, hlast]
  refine ⟨congrArg Except.ok ?_, ?_⟩
  · rw [unmoved.tally, htally]
  · rw [unmoved.records, hrecords]
    rfl

/-- **Suites, groups and laws do not touch one another.**  Where a reload always
succeeds and always leads to the same state, a rearranged list of suites comes to
the same tally, and the same entries are recorded, in another order. -/
theorem Rehearser.rehearse_rearranged (r : Rehearser σ) (start : σ)
    (hreload : ∀ state, r.session.reload state = (.ok (), start)) (session session' : σ)
    (console console' : Console) (hroom : console.room = none) (hroom' : console'.room = none)
    {suites suites' : List Suite} (h : Shuffled Suite.Rearranged suites suites') :
    ∃ tally, (r.rehearse session console suites).1 = .ok tally
      ∧ (r.rehearse session' console' suites').1 = .ok tally
      ∧ (r.rehearse session console suites).2.records.Perm
          (r.rehearse session' console' suites').2.records := by
  have hsame (suite : Suite) : suite.Rearranged suite := by
    refine ⟨rfl, ?_, ?_⟩
    · cases suite.setup with
      | none => exact .none
      | some g => exact .some ⟨rfl, .refl _⟩
    · induction suite.groups with
      | nil => exact .nil
      | cons g rest ih => exact .cons ⟨rfl, .refl _⟩ ih
  obtain ⟨entries, entries', hentries, hentries', hperm⟩ := Agree.each start h
    (fun suite => r.runSuite_agree hreload (hsame suite)) fun _ _ => r.runSuite_agree hreload
  obtain ⟨hresult, hrecords⟩ := r.rehearse_isolated session console hroom hentries
  obtain ⟨hresult', hrecords'⟩ := r.rehearse_isolated session' console' hroom' hentries'
  refine ⟨_, hresult, ?_, ?_⟩
  · rw [hresult', Tally.ofRecords_perm hperm]
    have hcount : countExamples suites = countExamples suites' :=
      h.total_eq fun _ _ => Suite.Rearranged.size_eq
    rw [hcount]
  · rw [hrecords, hrecords']
    exact hperm

/-- Every answer is the number of questions since the last reload. -/
def countingRehearser : Rehearser Nat where
  session := { reload := fun _ => (.ok (), 0), evaluate := fun n _ => (.ok (Text.ofNat n), n + 1) }
  laws := ⟨"\x7bexpression\x7d", none, "\x7bexpression\x7d"⟩
  comparison := { strategy := .lineExact }

/-- Two groups behind a setup, with a law each, and a suite without a setup. -/
def countedSuites : List Suite :=
  [⟨"A", some [.dialogue [⟨.line "a" 1, "let x = 1", ["0"]⟩]],
    [[.dialogue [⟨.line "a" 2, "x", ["1"]⟩, ⟨.line "a" 3, "x", ["1"]⟩], .law ⟨.line "a" 4, "p"⟩],
      [.law ⟨.line "a" 5, "q"⟩, .dialogue [⟨.line "a" 6, "y", ["1"]⟩]]]⟩,
    ⟨"B", none, [[.dialogue [⟨.line "b" 1, "z", ["0"]⟩]]]⟩]

/-- The same, with the suites and the groups swapped and both laws moved. -/
def rearrangedSuites : List Suite :=
  [⟨"B", none, [[.dialogue [⟨.line "b" 1, "z", ["0"]⟩]]]⟩,
    ⟨"A", some [.dialogue [⟨.line "a" 1, "let x = 1", ["0"]⟩]],
      [[.dialogue [⟨.line "a" 6, "y", ["1"]⟩], .law ⟨.line "a" 5, "q"⟩],
        [.law ⟨.line "a" 4, "p"⟩,
          .dialogue [⟨.line "a" 2, "x", ["1"]⟩, ⟨.line "a" 3, "x", ["1"]⟩]]]⟩]

/-- The two runs record their entries in different orders, but the same ones. -/
theorem rehearse_rearranged_sample :
    (countingRehearser.rehearse 7 {} countedSuites).2.records
        ≠ (countingRehearser.rehearse 0 {} rearrangedSuites).2.records
      ∧ ∃ tally, (countingRehearser.rehearse 7 {} countedSuites).1 = .ok tally
        ∧ (countingRehearser.rehearse 0 {} rearrangedSuites).1 = .ok tally
        ∧ (countingRehearser.rehearse 7 {} countedSuites).2.records.Perm
            (countingRehearser.rehearse 0 {} rearrangedSuites).2.records := by
  refine ⟨by decide +kernel, ?_⟩
  refine countingRehearser.rehearse_rearranged 0 (fun _ => rfl) 7 0 {} {} rfl rfl ?_
  refine .trans (.swap _ _ []) (.cons ?_ (.cons ?_ .nil))
  · exact ⟨rfl, .none, .cons ⟨rfl, .refl _⟩ .nil⟩
  · exact ⟨rfl, .some ⟨rfl, .refl _⟩,
      .trans (.swap _ _ []) (.cons ⟨rfl, .refl _⟩ (.cons ⟨rfl, .refl _⟩ .nil))⟩

end Rehearsal
