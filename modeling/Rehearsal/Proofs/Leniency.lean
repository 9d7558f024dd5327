/-
  Rehearsal.Proofs.Leniency
  ──────────────────────────────────────
  **The default comparison is never stricter than a line-exact one.**

  A line-exact comparison cuts the answer into lines.  The default one joins the
  expected lines, and then cuts both texts.  What the two ways of cutting treat
  differently, line ends and blank lines, is what a normal form leaves out, so a
  text and its lines have the same normal form.

    • `Text.normalize_eq` — the normal form, from the pieces of a text,
    • `Text.normalize_unlines_lines` — lines joined again,
    • `Comparison.check_lenient` — checks of a step.
-/
import Rehearsal.Manifest
import Rehearsal.Proofs.Cutting
import Rehearsal.Proofs.Examiner
import Rehearsal.Script

namespace Rehearsal

/-! ## §1. Normal forms. -/

namespace Text

/-- The lines of a normal form: without trailing blanks, and none of them blank. -/
def trimmedLines (rows : List Text) : List Text := (rows.map trimEnd).filter (· ≠ [])

theorem trimmedLines_cons {p q : Text} {ps qs : List Text} (h : trimEnd p = trimEnd q)
    (hrest : trimmedLines ps = trimmedLines qs) : trimmedLines (p :: ps) = trimmedLines (q :: qs) := by
  unfold trimmedLines at hrest ⊢
  rw [List.map_cons, List.map_cons, List.filter_cons, List.filter_cons, h, hrest]

/-- A carriage return at the end is a trailing blank. -/
theorem trimEnd_dropCarriageReturn (row : Text) : trimEnd (dropCarriageReturn row) = trimEnd row := by
  unfold dropCarriageReturn
  by_cases h : row.getLast? = some '\r'
  · obtain ⟨front, rfl⟩ := List.getLast?_eq_some_iff.mp h
    rw [if_pos h, List.dropLast_concat]
    unfold trimEnd
    rw [dropEndWhile_snoc, if_pos (by decide)]
  · rw [if_neg h]

/-- Line ends and an empty rest leave no trace in a normal form. -/
theorem trimmedLines_linesOfPieces (ps : List Text) :
    trimmedLines (linesOfPieces ps) = trimmedLines ps := by
  induction ps with
  | nil => rfl
  | cons p ps ih =>
    cases ps with
    | nil =>
      -- An empty rest is no line; as a line it would be a blank one.
      unfold linesOfPieces
      by_cases h : p = []
      · rw [if_pos h, h]
        rfl
      · rw [if_neg h]
    | cons q ps => exact trimmedLines_cons (trimEnd_dropCarriageReturn p) ih

/-- The normal form, from the pieces of a text. -/
theorem normalize_eq (t : Text) : normalize t = unlines (trimmedLines (pieces t)) :=
  congrArg unlines (trimmedLines_linesOfPieces (pieces t))

/-- **The normal form of joined lines** is made of these lines. -/
theorem normalize_unlines {rows : List Text} (h : ∀ row ∈ rows, '\n' ∉ row) :
    normalize (unlines rows) = unlines (trimmedLines rows) := by
  by_cases hne : rows = []
  · rw [hne]
    rfl
  · rw [normalize_eq, pieces_unlines hne h]

/-- A text and its lines, joined again, have the same normal form. -/
theorem normalize_unlines_lines (t : Text) : normalize (unlines (lines t)) = normalize t :=
  normalize_unlines fun _ => newline_not_mem_lines

end Text

/-! ## §2. Checks that get an answer. -/

variable {σ β : Type} {s : Session σ} {state : σ}

theorem Inquiry.hold_ask (expression : Text) (next : Answer → Inquiry β) :
    (Inquiry.ask expression next).hold s state
      = (((next (s.evaluate state expression).1).hold s (s.evaluate state expression).2).1,
          .asked expression
            :: ((next (s.evaluate state expression).1).hold s (s.evaluate state expression).2).2.1,
          ((next (s.evaluate state expression).1).hold s (s.evaluate state expression).2).2.2) := rfl

/-- An examination goes on with the answer that the session gives. -/
theorem Examination.hold_evaluate {expression answer : Text} (next : Text → Examination β)
    (h : (s.evaluate state expression).1 = .ok answer) :
    (Examination.evaluate expression >>= next).run.hold s state
      = (((next answer).run.hold s (s.evaluate state expression).2).1,
          .asked expression :: ((next answer).run.hold s (s.evaluate state expression).2).2.1,
          ((next answer).run.hold s (s.evaluate state expression).2).2.2) := by
  show (Inquiry.ask expression fun answer => Inquiry.bind _ _).hold s state = _
  rw [Inquiry.hold_ask, h]
  rfl

namespace Comparison

/-- A line-exact check asks for nothing but the value of the expression. -/
theorem hold_lineExact {c : Comparison} (hc : c.strategy = .lineExact) {step : Step}
    {actual : Text} (h : (s.evaluate state step.expression).1 = .ok actual) :
    (c.check step).run.hold s state
      = (.ok (Verdict.compareLines step.expected actual), [.asked step.expression],
          (s.evaluate state step.expression).2) := by
  unfold check
  rw [Examination.hold_evaluate _ h, hc]
  rfl

/-- A check without definitions compares normal forms. -/
theorem hold_delegated {step : Step} {actual : Text}
    (h : (s.evaluate state step.expression).1 = .ok actual)
    (hsame : Text.sameNormal actual (Text.unlines step.expected) = true) :
    (({ strategy := .delegated } : Comparison).check step).run.hold s state
      = (.ok .match, [.asked step.expression], (s.evaluate state step.expression).2) := by
  have hcompare : ({ strategy := .delegated } : Comparison).compareDelegated step.expected actual
      = if Text.sameNormal actual (Text.unlines step.expected) then pure .match
        else pure (.mismatch _) := rfl
  unfold check
  rw [Examination.hold_evaluate _ h, hcompare, if_pos hsame]
  rfl

end Comparison

/-! ## §3. Leniency. -/

theorem Verdict.compareLines_eq_match {expected : List Text} {actual : Text} :
    compareLines expected actual = .match ↔ Text.lines actual = expected := by
  unfold compareLines
  by_cases h : Text.lines actual = expected
  · simp [h]
  · simp [h]

/-- **The default comparison is never stricter.**  It accepts every answer that a
line-exact one accepts.  If the expected lines were written as one text, an answer
with this very text is accepted by both. -/
theorem Comparison.check_lenient (s : Session σ) (state : σ) (step : Step) (actual : Text)
    (h : (s.evaluate state step.expression).1 = .ok actual) :
    (Verdict.compareLines step.expected actual = .match →
        ((({ strategy := .delegated } : Comparison).check step).run.hold s state).1 = .ok .match)
      ∧ (Manifest.expectedOf? (.text actual) = some step.expected → ∀ strategy : Strategy,
        ((({ strategy } : Comparison).check step).run.hold s state).1 = .ok .match) := by
  have hdelegated : Text.lines actual = step.expected →
      ((({ strategy := .delegated } : Comparison).check step).run.hold s state).1 = .ok .match := by
    intro hlines
    have hsame : Text.sameNormal actual (Text.unlines step.expected) = true := by
      rw [← hlines]
      exact decide_eq_true (Text.normalize_unlines_lines actual).symm
    rw [hold_delegated h hsame]
  refine ⟨fun hmatch => hdelegated (Verdict.compareLines_eq_match.mp hmatch), ?_⟩
  intro htext strategy
  have hlines : Text.lines actual = step.expected := Option.some.inj htext
  cases strategy with
  | delegated => exact hdelegated hlines
  | lineExact => rw [hold_lineExact rfl h, Verdict.compareLines_eq_match.mpr hlines]

/-- A text with line ends of both kinds, blank lines, trailing blanks and no final
newline. -/
def sampleText : Text := "foo \t\r\n\n \r\nbar\r"

/-- What was cut into lines matches the text that it was cut from. -/
theorem check_lenient_sample :
    let step : Step := ⟨.label "m", "show t", Text.lines sampleText⟩
    let session := Script.session { answers := [("show t", [.ok sampleText])] }
    Verdict.compareLines step.expected sampleText = .match
      ∧ ((({ strategy := .delegated } : Comparison).check step).run.hold session {}).1 = .ok .match
      ∧ ((({ strategy := .lineExact } : Comparison).check step).run.hold session {}).1
        = .ok .match := by
  intro step session
  have hanswer : (session.evaluate {} step.expression).1 = .ok sampleText := rfl
  have hmatch : Verdict.compareLines step.expected sampleText = .match :=
    Verdict.compareLines_eq_match.mpr rfl
  obtain ⟨hlenient, hboth⟩ := Comparison.check_lenient session {} step sampleText hanswer
  exact ⟨hmatch, hlenient hmatch, hboth rfl .lineExact⟩

end Rehearsal
