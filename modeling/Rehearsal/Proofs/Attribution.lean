/-
  Rehearsal.Proofs.Attribution
  ──────────────────────────────────────
  **Whose error a check reports.**

  A check makes its calls in a fixed order and stops at the first one that fails.
  Later calls are built from the answers to earlier ones, so the agenda of a check is
  a function of these answers, whatever the session makes of them.

    • `Calls` — how the calls of an agenda may go,
    • `Examination.Makes` — an examination makes the calls of an agenda,
    • `Comparison.check_judged` — a check makes the calls of its agenda and judges what
      they print,
    • `Comparison.check_makes` — so an error without a failed call is an objection,
    • `Comparison.check_attributed` — which call an error comes from.
-/
import Rehearsal.Proofs.Leniency

namespace Rehearsal

variable {σ α β : Type} {s : Session σ} {state : σ}

/-! ## §1. Calls. -/

/-- A call that succeeded, as the session answered it. -/
def answered (call : Text × Text) : Text × Answer := (call.1, .ok call.2)

/-- How the calls of an agenda may go, which lists what each of them prints: in
order, up to the first one that fails. -/
inductive Calls : List (Text × Text) → List (Text × Answer) → Option Blame → Prop
  | done : Calls [] [] none
  | passed {agenda : List (Text × Text)} {heard : List (Text × Answer)} {failure : Option Blame}
      (call : Text × Text) (more : Calls agenda heard failure) :
      Calls (call :: agenda) (answered call :: heard) failure
  | failed (call : Text × Text) (agenda : List (Text × Text)) (message : Text) :
      Calls (call :: agenda) [(call.1, .error message)] (some ⟨call.1, message⟩)

namespace Calls

variable {agenda : List (Text × Text)} {heard : List (Text × Answer)} {failure : Option Blame}

/-- Nothing is sent that is not on the agenda. -/
theorem sent_prefix (h : Calls agenda heard failure) :
    heard.map Prod.fst <+: agenda.map Prod.fst := by
  induction h with
  | done => exact List.prefix_refl _
  | passed call more ih => exact (List.prefix_cons_inj call.1).mpr ih
  | failed call agenda message => exact ⟨agenda.map Prod.fst, rfl⟩

/-- Only the last call can fail. -/
theorem dropLast_prefix (h : Calls agenda heard failure) :
    heard.dropLast <+: agenda.map answered := by
  induction h with
  | done => exact List.prefix_refl _
  | @passed agenda heard failure call more ih =>
    cases heard with
    | nil => exact List.nil_prefix
    | cons next heard => exact (List.prefix_cons_inj (answered call)).mpr ih
  | failed call agenda message => exact List.nil_prefix

/-- Without a failure the whole agenda was sent. -/
theorem complete (h : Calls agenda heard none) : heard = agenda.map answered := by
  generalize hfailure : (none : Option Blame) = failure at h
  induction h with
  | done => rfl
  | passed call more ih => exact congrArg (answered call :: ·) (ih hfailure)
  | failed call agenda message => cases hfailure

/-- A failure is the answer to the last call. -/
theorem last_failed {blame : Blame} (h : Calls agenda heard (some blame)) :
    heard.getLast? = some (blame.expression, .error blame.message) := by
  generalize hfailure : some blame = failure at h
  induction h with
  | done => cases hfailure
  | @passed agenda heard failure call more ih =>
    have hlast := ih hfailure
    cases heard with
    | nil => cases hlast
    | cons next heard => exact hlast
  | failed call agenda message =>
    cases hfailure
    rfl

end Calls

/-! ## §2. Examinations. -/

namespace Examination

/-- An examination stops at an expression whose evaluation fails. -/
theorem hold_evaluate_error {expression message : Text} (next : Text → Examination β)
    (h : (s.evaluate state expression).1 = .error message) :
    (Examination.evaluate expression >>= next).run.hold s state
      = (.error ⟨expression, message⟩, [.asked expression], (s.evaluate state expression).2) := by
  show (Inquiry.ask expression fun answer => Inquiry.bind _ _).hold s state = _
  rw [Inquiry.hold_ask, h]
  rfl

theorem evaluate_bind_assoc (expression : Text) (f : Text → Examination α)
    (g : α → Examination β) :
    Examination.evaluate expression >>= f >>= g
      = Examination.evaluate expression >>= fun output => f output >>= g := by
  refine congrArg (Inquiry.ask expression) (funext fun answer => ?_)
  cases answer with
  | ok output => rfl
  | error message => rfl

/-- **An examination makes the calls of an agenda.**  Which agendas there are for
which results is said by `Plan`, in case no call fails. -/
def Makes (s : Session σ) (state : σ) (m : Examination α)
    (Plan : List (Text × Text) → Except Blame α → Prop) : Prop :=
  ∃ agenda heard failure planned,
    Calls agenda heard failure
      ∧ Plan agenda planned
      ∧ (m.run.hold s state).2.1 = heard.map (.asked ·.1)
      ∧ s.Plays state (heard.map fun call => .ask call.1 call.2) (m.run.hold s state).2.2
      ∧ (m.run.hold s state).1 = failure.elim planned .error

variable {Plan : List (Text × Text) → Except Blame α → Prop}

/-- A plan that says less. -/
theorem Makes.mono {m : Examination α} {Plan' : List (Text × Text) → Except Blame α → Prop}
    (h : Makes s state m Plan) (hplan : ∀ agenda result, Plan agenda result → Plan' agenda result) :
    Makes s state m Plan' := by
  obtain ⟨agenda, heard, failure, planned, hcalls, hagenda, hrest⟩ := h
  exact ⟨agenda, heard, failure, planned, hcalls, hplan agenda planned hagenda, hrest⟩

/-- Without a call. -/
theorem Makes.done {result : Except Blame α} (h : Plan [] result) :
    Makes s state (ExceptT.mk (Inquiry.done result)) Plan :=
  ⟨[], [], none, result, .done, h, rfl, rfl, rfl⟩

/-- One call, and what follows it. -/
theorem Makes.evaluate {expression : Text} {next : Text → Examination α}
    (h : ∀ output after, Makes s after (next output) fun agenda result =>
      Plan ((expression, output) :: agenda) result) :
    Makes s state (Examination.evaluate expression >>= next) Plan := by
  cases hanswer : (s.evaluate state expression).1 with
  | ok output =>
    obtain ⟨agenda, heard, failure, planned, hcalls, hplan, hrequests, hplays, hresult⟩ :=
      h output (s.evaluate state expression).2
    refine ⟨_, _, failure, planned, hcalls.passed (expression, output), hplan, ?_⟩
    rw [hold_evaluate next hanswer]
    exact ⟨congrArg (.asked expression :: ·) hrequests, ⟨hanswer, hplays⟩, hresult⟩
  | error message =>
    -- What would follow an answer makes an agenda of which only the first call is sent.
    obtain ⟨agenda, heard, failure, planned, hcalls, hplan, -⟩ :=
      h [] (s.evaluate state expression).2
    refine ⟨_, _, _, planned, .failed (expression, []) agenda message, hplan, ?_⟩
    rw [hold_evaluate_error next hanswer]
    exact ⟨rfl, ⟨hanswer, rfl⟩, rfl⟩

/-- A call that is left out if it has no template. -/
theorem Makes.cleaned {template : Option Text} {text : Text} {next : Text → Examination α}
    (h : ∀ clean after, (template = none → clean = text) →
      Makes s after (next clean) fun agenda result =>
        Plan ((template.map fun t => (Comparison.cleanupCall t text, clean)).toList ++ agenda)
          result) :
    Makes s state (Comparison.cleaned template text >>= next) Plan := by
  cases template with
  | none => exact h text state fun _ => rfl
  | some template => exact .evaluate fun output after => h output after (by simp)

end Examination

/-! ## §3. Checks. -/

namespace Comparison

variable (c : Comparison)

/-- The texts that a check of a step works on.  Without a cleanup a text is clean. -/
structure Fits (step : Step) (sides : Verdict.Sides) : Prop where
  expected : sides.expected = Text.unlines step.expected
  cleanExpected : c.cleanExpected = none → sides.cleanExpected = sides.expected
  cleanActual : c.cleanActual = none → sides.cleanActual = sides.actual

/-- **The calls of a check,** each with what it prints.  Calls without a template are
left out. -/
def agenda (expression : Text) (sides : Verdict.Sides) (judgement : Text) :
    List (Text × Text) :=
  (expression, sides.actual) :: match c.strategy with
    | .lineExact => []
    | .delegated =>
        (c.cleanExpected.map fun t => (cleanupCall t sides.expected, sides.cleanExpected)).toList
          ++ ((c.cleanActual.map fun t => (cleanupCall t sides.actual, sides.cleanActual)).toList
          ++ (c.equals.map fun t =>
            (equalsCall t sides.cleanActual sides.cleanExpected, judgement)).toList)

/-- What a check comes to if no call fails: the judgement on the texts that it worked
on.  The last text is what the predicate printed, if there is one. -/
def judged (step : Step) (sides : Verdict.Sides) (judgement : Text) : Except Blame Verdict :=
  match c.strategy with
  | .lineExact => .ok (Verdict.compareLines step.expected sides.actual)
  | .delegated =>
      let mismatch := Verdict.mismatch
        (Verdict.delegatedDiagnostic c.cleanExpected c.cleanActual c.equals sides)
      match c.equals with
      | none =>
          .ok (if Text.sameNormal sides.cleanActual sides.cleanExpected then .match else mismatch)
      | some template =>
          match readBool judgement with
          | some equal => .ok (if equal then .match else mismatch)
          | none =>
              .error ⟨equalsCall template sides.cleanActual sides.cleanExpected,
                notBoolean judgement⟩

/-- An error without a failed call: the predicate printed no boolean. -/
def Objects (sides : Verdict.Sides) (judgement : Text) (blame : Blame) : Prop :=
  ∃ template, c.strategy = .delegated ∧ c.equals = some template
    ∧ blame.expression = equalsCall template sides.cleanActual sides.cleanExpected
    ∧ readBool judgement = none ∧ blame.message = notBoolean judgement

variable {c}

/-- **A check makes the calls of its agenda** and judges the texts that they print. -/
theorem check_judged (c : Comparison) (step : Step) (s : Session σ) (state : σ) :
    Examination.Makes s state (c.check step) fun agenda result => ∃ sides judgement,
      c.Fits step sides ∧ agenda = c.agenda step.expression sides judgement
        ∧ result = c.judged step sides judgement := by
  unfold check
  refine .evaluate fun actual after => ?_
  unfold agenda judged
  cases hstrategy : c.strategy with
  | lineExact =>
    let expected := Text.unlines step.expected
    exact .done ⟨⟨expected, actual, expected, actual⟩, [], ⟨rfl, fun _ => rfl, fun _ => rfl⟩, rfl,
      rfl⟩
  | delegated =>
    unfold compareDelegated
    refine .cleaned fun cleanExpected after hexpected => ?_
    refine .cleaned fun cleanActual after hactual => ?_
    let sides : Verdict.Sides :=
      ⟨Text.unlines step.expected, actual, cleanExpected, cleanActual⟩
    have hfits : c.Fits step sides := ⟨rfl, hexpected, hactual⟩
    cases hequals : c.equals with
    | none =>
      -- Normal forms are compared without a call.
      show Examination.Makes s after (if Text.sameNormal _ _ then _ else _) _
      split
      next hsame => exact .done ⟨sides, [], hfits, rfl, by simp only [sides, if_pos hsame]⟩
      next hsame => exact .done ⟨sides, [], hfits, rfl, by simp only [sides, if_neg hsame]⟩
    | some template =>
      unfold decideEqual
      show Examination.Makes s after (Examination.evaluate _ >>= _ >>= _) _
      rw [Examination.evaluate_bind_assoc]
      refine .evaluate fun judgement after => ?_
      cases hread : readBool judgement with
      | none => exact .done ⟨sides, judgement, hfits, rfl, by rw [hread]⟩
      | some equal =>
        cases equal with
        | true => exact .done ⟨sides, judgement, hfits, rfl, by rw [hread]; rfl⟩
        | false => exact .done ⟨sides, judgement, hfits, rfl, by rw [hread]; rfl⟩

/-- Without a failed call, an error is an objection to what the predicate printed. -/
theorem objects_of_judged {step : Step} {sides : Verdict.Sides} {judgement : Text} {blame : Blame}
    (h : c.judged step sides judgement = .error blame) : c.Objects sides judgement blame := by
  unfold judged at h
  cases hstrategy : c.strategy with
  | lineExact => simp [hstrategy] at h
  | delegated =>
    cases hequals : c.equals with
    | none => simp [hstrategy, hequals] at h
    | some template =>
      cases hread : readBool judgement with
      | some equal => simp [hstrategy, hequals, hread] at h
      | none =>
        simp only [hstrategy, hequals, hread, Except.error.injEq] at h
        exact h ▸ ⟨template, hstrategy, hequals, rfl, hread, rfl⟩

/-- **A check makes the calls of its agenda.**  If none of them fails, an error is an
objection to what the predicate printed. -/
theorem check_makes (c : Comparison) (step : Step) (s : Session σ) (state : σ) :
    Examination.Makes s state (c.check step) fun agenda result => ∃ sides judgement,
      c.Fits step sides ∧ agenda = c.agenda step.expression sides judgement
        ∧ ∀ blame, result = .error blame → c.Objects sides judgement blame := by
  refine (check_judged c step s state).mono fun agenda result hjudged => ?_
  obtain ⟨sides, judgement, hfits, hagenda, hresult⟩ := hjudged
  exact ⟨sides, judgement, hfits, hagenda, fun blame hblame =>
    objects_of_judged (hresult.symm.trans hblame)⟩

/-- The predicate is the last call. -/
theorem Objects.last {sides : Verdict.Sides} {judgement : Text} {blame : Blame}
    (h : c.Objects sides judgement blame) (expression : Text) :
    ((c.agenda expression sides judgement).map answered).getLast?
      = some (blame.expression, .ok judgement) := by
  obtain ⟨template, hstrategy, hequals, hexpression, -⟩ := h
  unfold agenda
  rw [hstrategy, hequals, hexpression, List.getLast?_map, ← List.append_assoc,
    ← List.cons_append]
  show ((_ ++ [_] : List (Text × Text)).getLast?).map answered = _
  rw [List.getLast?_concat]
  rfl

/-- **Errors of a check are attributed to the call that failed.**  A check sends its
agenda in order, up to the first call that fails.  Its error is the answer to the last
call that was sent, with the expression of this call; only what the predicate printed
can be an error without being one for the session.  A verdict means that all calls were
sent and succeeded. -/
theorem check_attributed (c : Comparison) (step : Step) (s : Session σ) (state : σ) :
    ∃ (sides : Verdict.Sides) (judgement : Text) (heard : List (Text × Answer)),
      let held := (c.check step).run.hold s state
      let agenda := c.agenda step.expression sides judgement
      c.Fits step sides
      ∧ held.2.1 = heard.map (.asked ·.1)
      ∧ s.Plays state (heard.map fun call => .ask call.1 call.2) held.2.2
      ∧ heard.map Prod.fst <+: agenda.map Prod.fst
      ∧ heard.dropLast <+: agenda.map answered
      ∧ match held.1 with
        | .ok _ => heard = agenda.map answered
        | .error blame => ∃ answer, heard.getLast? = some (blame.expression, answer)
            ∧ (answer = .error blame.message
              ∨ answer = .ok judgement ∧ heard = agenda.map answered
                ∧ c.Objects sides judgement blame) := by
  obtain ⟨_, heard, failure, planned, hcalls, ⟨sides, judgement, hfits, rfl, hobjects⟩, hrequests,
    hplays, hresult⟩ := check_makes c step s state
  refine ⟨sides, judgement, heard, hfits, hrequests, hplays, hcalls.sent_prefix,
    hcalls.dropLast_prefix, ?_⟩
  rw [hresult]
  cases failure with
  | some blame => exact ⟨_, hcalls.last_failed, .inl rfl⟩
  | none =>
    have hheard := hcalls.complete
    cases planned with
    | ok verdict => exact hheard
    | error blame =>
      have hblame := hobjects blame rfl
      exact ⟨_, hheard ▸ hblame.last step.expression, .inr ⟨rfl, hheard, hblame⟩⟩

end Comparison

end Rehearsal
