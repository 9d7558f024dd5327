/-
  Rehearsal.Proofs.Diagnostics
  ──────────────────────────────────────
  **What was compared can be read off a diagnostic.**

  In a labelled block every row but the first is indented by the width of the label, and
  no label starts with two blanks.  So a block ends in front of the first row that is not
  indented, whatever its text looks like, and the texts of a diagnostic can be read off
  it one after the other.  The cleaned texts may be left out; then the definitions follow
  at once, and cleaning changed nothing.

    • `Verdict.labeled_append_inj` — a labelled block says where it ends,
    • `Verdict.lineDiagnostic_inj`, `Verdict.delegatedDiagnostic_inj` — whole diagnostics,
    • `Comparison.WorksOn` — the texts that a check works on,
    • `mismatches_unambiguous` — mismatches with the same diagnostic.
-/
import Rehearsal.Proofs.Attribution

namespace Rehearsal

/-! ## §1. Rows. -/

namespace Text

/-- Different texts have different pieces. -/
theorem pieces_inj {t u : Text} (h : pieces t = pieces u) : t = u := by
  rw [← unlines_pieces t, h, unlines_pieces]

/-- A row says where it ends. -/
theorem row_append_inj {p q rest rest' : Text} (hp : '\n' ∉ p) (hq : '\n' ∉ q)
    (h : p ++ '\n' :: rest = q ++ '\n' :: rest') : p = q ∧ rest = rest' := by
  have hpieces := congrArg pieces h
  rw [pieces_append_newline, pieces_append_newline, pieces_of_flat hp, pieces_of_flat hq] at hpieces
  obtain ⟨hrow, hrest⟩ := List.cons.inj hpieces
  exact ⟨hrow, pieces_inj hrest⟩

/-- The text does not start with an indented row. -/
def Unindented (t : Text) : Prop := ¬ [' ', ' '] <+: t

instance (t : Text) : Decidable (Unindented t) := inferInstanceAs (Decidable (¬ [' ', ' '] <+: t))

theorem Unindented.append {t : Text} (h : Unindented t) (hlength : 2 ≤ t.length) (rest : Text) :
    Unindented (t ++ rest) := fun hindented =>
  h (List.prefix_of_prefix_length_le hindented (List.prefix_append t rest) hlength)

/-- Rows behind an indent, each with its newline. -/
def indented (indent : Text) (rows : List Text) : Text :=
  rows.flatMap fun row => indent ++ row ++ ['\n']

theorem indented_cons (indent row : Text) (rows : List Text) (rest : Text) :
    indented indent (row :: rows) ++ rest
      = indent ++ (row ++ '\n' :: (indented indent rows ++ rest)) := by
  simp [indented]

/-- **Indented rows say where they end,** if what follows them is not indented. -/
theorem indented_append_inj {indent : Text} (hindent : [' ', ' '] <+: indent)
    {rows rows' : List Text} (hrows : ∀ row ∈ rows, '\n' ∉ row) (hrows' : ∀ row ∈ rows', '\n' ∉ row)
    {rest rest' : Text} (hrest : Unindented rest) (hrest' : Unindented rest')
    (h : indented indent rows ++ rest = indented indent rows' ++ rest') :
    rows = rows' ∧ rest = rest' := by
  induction rows generalizing rows' with
  | nil =>
    cases rows' with
    | nil => exact ⟨rfl, h⟩
    | cons row' rows' =>
      -- What follows would be an indented row.
      rw [indented_cons] at h
      have hrest : ¬ [' ', ' '] <+: indented indent [] ++ rest := hrest
      exact absurd (h ▸ hindent.trans (List.prefix_append ..)) hrest
  | cons row rows ih =>
    obtain ⟨hrow, hmore⟩ := List.forall_mem_cons.mp hrows
    cases rows' with
    | nil =>
      rw [indented_cons] at h
      have hrest' : ¬ [' ', ' '] <+: indented indent [] ++ rest' := hrest'
      exact absurd (h ▸ hindent.trans (List.prefix_append ..)) hrest'
    | cons row' rows' =>
      obtain ⟨hrow', hmore'⟩ := List.forall_mem_cons.mp hrows'
      rw [indented_cons, indented_cons] at h
      obtain ⟨rfl, hbehind⟩ := row_append_inj hrow hrow' (List.append_cancel_left h)
      obtain ⟨rfl, hend⟩ := ih hmore hmore' hbehind
      exact ⟨rfl, hend⟩

end Text

/-! ## §2. Diagnostics. -/

namespace Verdict

open Text

variable {label text text' rest rest' : Text}

theorem labeled_append {first : Text} {more : List Text} (h : pieces text = first :: more)
    (rest : Text) :
    labeled label text ++ rest
      = label ++ ' ' :: (first ++ '\n' ::
          (indented (List.replicate (label.length + 1) ' ') more ++ rest)) := by
  unfold labeled indented
  rw [h]
  simp

/-- **A labelled block says where it ends,** if what follows it is not indented. -/
theorem labeled_append_inj (hlabel : label ≠ []) (hrest : Unindented rest)
    (hrest' : Unindented rest') (h : labeled label text ++ rest = labeled label text' ++ rest') :
    text = text' ∧ rest = rest' := by
  obtain ⟨first, more, hpieces⟩ := List.exists_cons_of_ne_nil (pieces_ne_nil text)
  obtain ⟨first', more', hpieces'⟩ := List.exists_cons_of_ne_nil (pieces_ne_nil text')
  obtain ⟨hfirst, hmore⟩ := List.forall_mem_cons.mp (hpieces ▸ newline_not_mem_pieces text)
  obtain ⟨hfirst', hmore'⟩ := List.forall_mem_cons.mp (hpieces' ▸ newline_not_mem_pieces text')
  have hindent : [' ', ' '] <+: List.replicate (label.length + 1) ' ' := by
    obtain ⟨c, label, rfl⟩ := List.exists_cons_of_ne_nil hlabel
    exact ⟨List.replicate label.length ' ', rfl⟩
  rw [labeled_append hpieces, labeled_append hpieces'] at h
  obtain ⟨-, hrows⟩ := List.cons.inj (List.append_cancel_left h)
  obtain ⟨rfl, hbehind⟩ := row_append_inj hfirst hfirst' hrows
  obtain ⟨rfl, hend⟩ := indented_append_inj hindent hmore hmore' hrest hrest' hbehind
  exact ⟨pieces_inj (hpieces.trans hpieces'.symm), hend⟩

/-- A block starts with its label. -/
theorem unindented_labeled (hlabel : Unindented label) (hlength : 2 ≤ label.length)
    (text rest : Text) : Unindented (labeled label text ++ rest) := by
  obtain ⟨first, more, hpieces⟩ := List.exists_cons_of_ne_nil (pieces_ne_nil text)
  rw [labeled_append hpieces]
  exact hlabel.append hlength _

/-- The first part of every diagnostic. -/
def heading (expected actual : Text) : Text :=
  labeled "expected:" expected ++ labeled " but got:" actual

/-- **Both texts can be read off the first part.** -/
theorem heading_append_inj {expected expected' actual actual' : Text} (hrest : Unindented rest)
    (hrest' : Unindented rest') (h : heading expected actual ++ rest = heading expected' actual' ++ rest') :
    expected = expected' ∧ actual = actual' ∧ rest = rest' := by
  unfold heading at h
  rw [List.append_assoc, List.append_assoc] at h
  have hlabel (actual rest : Text) : Unindented (labeled " but got:" actual ++ rest) :=
    unindented_labeled (by decide) (by decide) actual rest
  obtain ⟨hexpected, hmore⟩ := labeled_append_inj (by decide) (hlabel _ _) (hlabel _ _) h
  exact ⟨hexpected, labeled_append_inj (by decide) hrest hrest' hmore⟩

/-- **Line-exact diagnostics** tell the texts. -/
theorem lineDiagnostic_inj {expected expected' actual actual' : Text}
    (h : lineDiagnostic expected actual = lineDiagnostic expected' actual') :
    expected = expected' ∧ actual = actual' := by
  have hdiff : ∀ (p : Prop) [Decidable p] (block : Text),
      Unindented (if p then ("diff:\n" : Text) ++ block else []) := by
    intro p _ block
    split
    · exact Unindented.append (by decide) (by decide) block
    · decide
  obtain ⟨hexpected, hactual, -⟩ := heading_append_inj (hdiff _ _) (hdiff _ _) h
  exact ⟨hexpected, hactual⟩

/-- A line-exact mismatch shows the joined expected text and the actual one. -/
theorem lineDiagnostic_of_mismatch {expected : List Text} {actual diagnostic : Text}
    (h : compareLines expected actual = .mismatch diagnostic) :
    lineDiagnostic (unlines expected) actual = diagnostic := by
  unfold compareLines at h
  split at h
  · cases h
  · exact Verdict.mismatch.inj h

/-- The middle part of a delegated diagnostic. -/
def cleaning (s : Sides) : Text :=
  if s.cleanExpected ≠ s.expected ∨ s.cleanActual ≠ s.actual then
    labeled "expected (cleaned):" s.cleanExpected ++ labeled " but got (cleaned):" s.cleanActual
  else []

theorem delegatedDiagnostic_eq (cleanExpected cleanActual equals : Option Text) (s : Sides) :
    delegatedDiagnostic cleanExpected cleanActual equals s
      = heading s.expected s.actual
        ++ (cleaning s ++ definitions cleanExpected cleanActual equals) :=
  List.append_assoc ..

/-- The middle part is left out where cleaning changed nothing. -/
theorem cleaning_cases (s : Sides) :
    cleaning s = [] ∧ s.cleanExpected = s.expected ∧ s.cleanActual = s.actual
      ∨ cleaning s = labeled "expected (cleaned):" s.cleanExpected
        ++ labeled " but got (cleaned):" s.cleanActual := by
  unfold cleaning
  split
  next => exact .inr rfl
  next hsame =>
    rw [not_or, Decidable.not_not, Decidable.not_not] at hsame
    exact .inl ⟨rfl, hsame⟩

/-- The label of a cleaned text and the definitions start with different letters. -/
theorem labeled_cleaned_ne (text more rest : Text) :
    labeled "expected (cleaned):" text ++ more ≠ 'd' :: rest := by
  obtain ⟨first, others, hpieces⟩ := List.exists_cons_of_ne_nil (pieces_ne_nil text)
  rw [labeled_append hpieces]
  intro heq
  exact absurd (List.cons.inj heq).1 (by decide)

/-- **The cleaned texts can be read off the middle part,** also where it is left out. -/
theorem cleaning_append_inj {s s' : Sides} (hexpected : s.expected = s'.expected)
    (hactual : s.actual = s'.actual)
    (h : cleaning s ++ 'd' :: rest = cleaning s' ++ 'd' :: rest) :
    s.cleanExpected = s'.cleanExpected ∧ s.cleanActual = s'.cleanActual := by
  have hrest : Unindented ('d' :: rest) := by
    intro hindented
    exact absurd (List.cons_prefix_cons.mp hindented).1 (by decide)
  have hlabel (text more : Text) : Unindented (labeled " but got (cleaned):" text ++ more) :=
    unindented_labeled (by decide) (by decide) text more
  rcases cleaning_cases s with ⟨hnone, hsame⟩ | hshown
  · rcases cleaning_cases s' with ⟨hnone', hsame'⟩ | hshown'
    · exact ⟨hsame.1.trans (hexpected.trans hsame'.1.symm),
        hsame.2.trans (hactual.trans hsame'.2.symm)⟩
    · rw [hnone, hshown', List.append_assoc] at h
      exact absurd h.symm (labeled_cleaned_ne _ _ _)
  · rcases cleaning_cases s' with ⟨hnone', hsame'⟩ | hshown'
    · rw [hshown, hnone', List.append_assoc] at h
      exact absurd h (labeled_cleaned_ne _ _ _)
    · rw [hshown, hshown', List.append_assoc, List.append_assoc] at h
      obtain ⟨hclean, hmore⟩ := labeled_append_inj (by decide) (hlabel _ _) (hlabel _ _) h
      exact ⟨hclean, (labeled_append_inj (by decide) hrest hrest hmore).1⟩

/-- **Delegated diagnostics** tell all four texts. -/
theorem delegatedDiagnostic_inj {cleanExpected cleanActual equals : Option Text} {s s' : Sides}
    (h : delegatedDiagnostic cleanExpected cleanActual equals s
      = delegatedDiagnostic cleanExpected cleanActual equals s') : s = s' := by
  have hmiddle (s : Sides) :
      Unindented (cleaning s ++ definitions cleanExpected cleanActual equals) := by
    unfold cleaning
    split
    · rw [List.append_assoc]
      exact unindented_labeled (by decide) (by decide) _ _
    · exact Unindented.append (t := "definition:\n  expected' = ") (by decide) (by decide) _
  rw [delegatedDiagnostic_eq, delegatedDiagnostic_eq] at h
  obtain ⟨hexpected, hactual, hmore⟩ := heading_append_inj (hmiddle s) (hmiddle s') h
  obtain ⟨hcleanExpected, hcleanActual⟩ := cleaning_append_inj hexpected hactual hmore
  cases s
  cases s'
  rw [Sides.mk.injEq]
  exact ⟨hexpected, hactual, hcleanExpected, hcleanActual⟩

end Verdict

/-! ## §3. Checks. -/

namespace Comparison

variable {σ : Type} {c : Comparison} {s : Session σ} {state : σ} {step : Step}

/-- The moves of calls that succeed. -/
def moves (calls : List (Text × Text)) : List Move :=
  (calls.map answered).map fun call => .ask call.1 call.2

/-- In this state of a session, a check of the step works on these texts: none of its
calls fails, and they print what belongs to the texts. -/
def WorksOn (c : Comparison) (s : Session σ) (state : σ) (step : Step) (sides : Verdict.Sides) :
    Prop :=
  c.Fits step sides ∧ ∃ judgement after,
    s.Plays state (moves (c.agenda step.expression sides judgement)) after

/-- The diagnostic of a delegated mismatch shows the texts that were judged. -/
theorem diagnostic_of_judged (hc : c.strategy = .delegated) {sides : Verdict.Sides}
    {judgement diagnostic : Text} (h : c.judged step sides judgement = .ok (.mismatch diagnostic)) :
    diagnostic = Verdict.delegatedDiagnostic c.cleanExpected c.cleanActual c.equals sides := by
  have hshown : ∀ (p : Prop) [Decidable p] (shown : Text),
      (if p then Verdict.match else .mismatch shown) = .mismatch diagnostic → diagnostic = shown := by
    intro p _ shown heq
    split at heq
    · cases heq
    · exact (Verdict.mismatch.inj heq).symm
  unfold judged at h
  rw [hc] at h
  dsimp only at h
  split at h
  next => exact hshown _ _ (Except.ok.inj h)
  next template _ =>
    split at h
    next => exact hshown _ _ (Except.ok.inj h)
    next => cases h

/-- A check with a mismatch worked on texts, and shows them. -/
theorem worksOn_of_mismatch (hc : c.strategy = .delegated) {diagnostic : Text}
    (h : ((c.check step).run.hold s state).1 = .ok (.mismatch diagnostic)) :
    ∃ sides, c.WorksOn s state step sides
      ∧ diagnostic
        = Verdict.delegatedDiagnostic c.cleanExpected c.cleanActual c.equals sides := by
  obtain ⟨_, heard, failure, _, hcalls, ⟨sides, judgement, hfits, rfl, rfl⟩, -, hplays, hresult⟩ :=
    check_judged c step s state
  rw [h] at hresult
  cases failure with
  | some blame => cases hresult
  | none =>
    exact ⟨sides, ⟨hfits, judgement, _, hcalls.complete ▸ hplays⟩,
      diagnostic_of_judged hc hresult.symm⟩

/-- A cleanup gives one text, with a call and without. -/
theorem plays_cleaned {template : Option Text} {text clean clean' : Text}
    (hclean : template = none → clean = clean') {rest rest' : List (Text × Text)} {after after' : σ}
    (h : s.Plays state
      (moves ((template.map fun t => (cleanupCall t text, clean)).toList ++ rest)) after)
    (h' : s.Plays state
      (moves ((template.map fun t => (cleanupCall t text, clean')).toList ++ rest')) after') :
    clean = clean' ∧ ∃ mid, s.Plays mid (moves rest) after ∧ s.Plays mid (moves rest') after' := by
  cases template with
  | none => exact ⟨hclean rfl, state, h, h'⟩
  | some template =>
    obtain ⟨hanswer, hmore⟩ := h
    obtain ⟨hanswer', hmore'⟩ := h'
    exact ⟨Except.ok.inj (hanswer.symm.trans hanswer'), _, hmore, hmore'⟩

/-- **A delegated check works on one list of texts.** -/
theorem WorksOn.unique (hc : c.strategy = .delegated) {sides sides' : Verdict.Sides}
    (h : c.WorksOn s state step sides) (h' : c.WorksOn s state step sides') : sides = sides' := by
  obtain ⟨hfits, judgement, after, hplays⟩ := h
  obtain ⟨hfits', judgement', after', hplays'⟩ := h'
  unfold agenda at hplays hplays'
  rw [hc] at hplays hplays'
  obtain ⟨expected, actual, cleanExpected, cleanActual⟩ := sides
  obtain ⟨expected', actual', cleanExpected', cleanActual'⟩ := sides'
  obtain rfl : expected = expected' := hfits.expected.trans hfits'.expected.symm
  obtain ⟨hanswer, hmore⟩ := hplays
  obtain ⟨hanswer', hmore'⟩ := hplays'
  obtain rfl : actual = actual' := Except.ok.inj (hanswer.symm.trans hanswer')
  obtain ⟨rfl, mid, hmore, hmore'⟩ := plays_cleaned
    (fun hnone => (hfits.cleanExpected hnone).trans (hfits'.cleanExpected hnone).symm) hmore hmore'
  obtain ⟨rfl, -⟩ := plays_cleaned
    (fun hnone => (hfits.cleanActual hnone).trans (hfits'.cleanActual hnone).symm) hmore hmore'
  rfl

end Comparison

/-- **Mismatches with the same diagnostic are about the same texts.**  Two line-exact
mismatches have the same joined expected text and the same actual text.  Two delegated
ones of one comparison, in whatever sessions, worked on the same expected and actual
text, before and after their cleanup, and neither of them on any other texts. -/
theorem mismatches_unambiguous :
    (∀ (expected expected' : List Text) (actual actual' diagnostic : Text),
        Verdict.compareLines expected actual = .mismatch diagnostic →
        Verdict.compareLines expected' actual' = .mismatch diagnostic →
          Text.unlines expected = Text.unlines expected' ∧ actual = actual')
      ∧ ∀ (σ τ : Type) (c : Comparison) (s : Session σ) (t : Session τ) (state : σ) (state' : τ)
          (step step' : Step) (diagnostic : Text), c.strategy = .delegated →
          ((c.check step).run.hold s state).1 = .ok (.mismatch diagnostic) →
          ((c.check step').run.hold t state').1 = .ok (.mismatch diagnostic) →
            ∃ sides, (∀ texts, c.WorksOn s state step texts ↔ texts = sides)
              ∧ ∀ texts, c.WorksOn t state' step' texts ↔ texts = sides := by
  constructor
  · intro expected expected' actual actual' diagnostic h h'
    exact Verdict.lineDiagnostic_inj ((Verdict.lineDiagnostic_of_mismatch h).trans
      (Verdict.lineDiagnostic_of_mismatch h').symm)
  · intro σ τ c s t state state' step step' diagnostic hc h h'
    obtain ⟨sides, hworks, hshown⟩ := Comparison.worksOn_of_mismatch hc h
    obtain ⟨sides', hworks', hshown'⟩ := Comparison.worksOn_of_mismatch hc h'
    obtain rfl := Verdict.delegatedDiagnostic_inj (hshown.symm.trans hshown')
    refine ⟨sides, fun texts => ⟨fun htexts => htexts.unique hc hworks, ?_⟩,
      fun texts => ⟨fun htexts => htexts.unique hc hworks', ?_⟩⟩
    · rintro rfl
      exact hworks
    · rintro rfl
      exact hworks'

/-- A session that prints the same for everything. -/
def echoing (output : Text) : Session Unit where
  reload := fun _ => (.ok (), ())
  evaluate := fun _ _ => (.ok output, ())

/-- A comparison with a cleanup on one side and a predicate. -/
def sampleComparison : Comparison :=
  { cleanExpected := some "clean {text}", equals := some "eq {actual} {expected}" }

/-- The verdict on a step, where everything that is asked prints `False`. -/
def sampleVerdict (step : Step) : Except Blame Verdict :=
  ((sampleComparison.check step).run.hold (echoing "False") ()).1

/-- Expected lines that are joined to one text, a row of which looks like a label. -/
theorem mismatches_unambiguous_sample :
    let rows : List Text := ["1", " but got: 2"]
    let joined : Text := "1\n but got: 2"
    let first : Step := ⟨.label "m", "f", rows⟩
    let second : Step := ⟨.label "m", "g", [joined]⟩
    let shown := Verdict.lineDiagnostic joined "3"
    let shownCleaned := Verdict.delegatedDiagnostic sampleComparison.cleanExpected none
      sampleComparison.equals ⟨joined, "False", "False", "False"⟩
    Verdict.compareLines rows "3" = .mismatch shown
      ∧ Verdict.compareLines [joined] "3" = .mismatch shown
      ∧ Text.unlines rows = Text.unlines [joined]
      ∧ sampleVerdict first = .ok (.mismatch shownCleaned)
      ∧ sampleVerdict second = .ok (.mismatch shownCleaned)
      ∧ ∃ sides, (∀ texts, sampleComparison.WorksOn (echoing "False") () first texts ↔ texts = sides)
        ∧ ∀ texts, sampleComparison.WorksOn (echoing "False") () second texts ↔ texts = sides := by
  intro rows joined first second shown shownCleaned
  have hrows : Verdict.compareLines rows "3" = .mismatch shown := if_neg (by decide)
  have hjoined : Verdict.compareLines [joined] "3" = .mismatch shown := if_neg (by decide)
  have hfirst : sampleVerdict first = .ok (.mismatch shownCleaned) := rfl
  have hsecond : sampleVerdict second = .ok (.mismatch shownCleaned) := rfl
  obtain ⟨hexact, hdelegated⟩ := mismatches_unambiguous
  exact ⟨hrows, hjoined, (hexact _ _ _ _ _ hrows hjoined).1, hfirst, hsecond,
    hdelegated _ _ _ _ _ _ _ _ _ _ rfl hfirst hsecond⟩

end Rehearsal
