/-
  Rehearsal.Proofs.Verbatim
  ──────────────────────────────────────
  **Line-exact checks of what a child prints.**

  The rows that a child prints are joined to an answer, and the answer is cut into
  lines again.  A newline at the end of a text ends its last line, so one blank row
  at the end is lost on the way; every other row comes back as it was printed
  (`Text.lines_unlines`).

    • `Wire.readResponse_rows` — rows as they are read,
    • `Wire.check_verbatim_iff` — when a check sees all rows.
-/
import Rehearsal.Proofs.Leniency
import Rehearsal.Proofs.Pairing

namespace Rehearsal

/-! ## §1. Rows as they are read. -/

namespace Wire

open Text

variable {sentinel : Text}

/-- Rows that do not end with the sentinel. -/
def Unmarked (sentinel : Text) (rows : List Text) : Prop :=
  ∀ row ∈ rows, IsRow row ∧ ¬ sentinel <:+ row

instance (sentinel : Text) (rows : List Text) : Decidable (Unmarked sentinel rows) :=
  inferInstanceAs (Decidable (∀ row ∈ rows, IsRow row ∧ ¬ sentinel <:+ row))

/-- What a child prints that prints rows, and then the line of the sentinel. -/
def printout (sentinel : Text) (rows : List Text) : Bytes :=
  frame sentinel (rows.flatMap (· ++ ['\n']))

/-- **Rows are read as they were printed**, up to right behind the sentinel. -/
theorem readResponse_rows (hs : IsRow sentinel) {rows : List Text} (hrows : Unmarked sentinel rows)
    (rest : Bytes) :
    readResponse sentinel (printout sentinel rows ++ rest) = (.ok rows, rest) := by
  by_cases hempty : sentinel = []
  · subst hempty
    -- Every row ends with nothing, so there is none.
    obtain rfl : rows = [] :=
      List.eq_nil_iff_forall_not_mem.mpr fun row hrow => (hrows row hrow).2 List.nil_suffix
    show readResponse [] ([] ++ newline :: rest) = _
    rw [readResponse_line rest List.not_mem_nil, ofUtf8?_nil]
    rfl
  · have hdrop : rows.map dropReturns = rows := by
      rw [List.map_congr_left fun row hrow => dropReturns_eq_self (hrows row hrow).1.2]
      exact List.map_id rows
    have hread := readResponse_lines ⟨hempty, hs.1, hs.2⟩ (fun row hrow => (hrows row hrow).1.1)
      List.not_mem_nil (fun row hrow => by
        rw [dropReturns_eq_self (hrows row hrow).1.2]
        exact (hrows row hrow).2) rest
    rwa [hdrop, List.append_nil, if_pos rfl, List.append_nil] at hread

/-! ## §2. Line-exact checks. -/

section Checks

variable {σ : Type} {child : Child σ} {s : InterpreterSettings} {errors : Regex.Matcher}
  {state : State σ} {rows : List Text} {rest : Bytes}

/-- The answer to an expression are the rows, joined. -/
theorem evaluate_rows {expression : Text} (hs : IsRow s.sentinel)
    (hrows : Unmarked s.sentinel rows) (hlistens : child.listens state.child = true)
    (hprinted : state.unread
        ++ (child.feed state.child (utf8 (requestText s expression ++ sentinelText s))).1
      = printout s.sentinel rows ++ rest)
    (herrors : errors.isMatch (unlines rows) = false) :
    (evaluate child s errors state expression).1 = .ok (unlines rows) := by
  have hread := readResponse_rows hs hrows rest
  rw [← hprinted] at hread
  unfold evaluate
  rw [exchange_read hlistens hread]
  show (if errors.isMatch (unlines rows) then _ else _) = _
  rw [herrors]
  rfl

/-- **A line-exact check compares with the rows that are left.** -/
theorem check_rows {c : Comparison} (hc : c.strategy = .lineExact) {step : Step}
    (hs : IsRow s.sentinel) (hrows : Unmarked s.sentinel rows)
    (hlistens : child.listens state.child = true)
    (hprinted : state.unread
        ++ (child.feed state.child (utf8 (requestText s step.expression ++ sentinelText s))).1
      = printout s.sentinel rows ++ rest)
    (herrors : errors.isMatch (unlines rows) = false) :
    ((c.check step).run.hold (session child s errors) state).1 = .ok .match
      ↔ step.expected = heard rows := by
  have hanswer : ((session child s errors).evaluate state step.expression).1 = .ok (unlines rows) :=
    evaluate_rows hs hrows hlistens hprinted herrors
  rw [Comparison.hold_lineExact hc hanswer, Except.ok.injEq, Verdict.compareLines_eq_match,
    lines_unlines fun row hrow => (hrows row hrow).1, eq_comm]

end Checks

/-- **Line-exact checks of what a child prints.**  A check accepts exactly the
rows that the child printed, without one blank row at the end.  So it accepts all
of the rows and nothing else exactly if the last row is not blank. -/
theorem check_verbatim_iff {σ : Type} (child : Child σ) (s : InterpreterSettings)
    (errors : Regex.Matcher) (state : State σ) (c : Comparison) (hc : c.strategy = .lineExact)
    (expression : Text) (rows : List Text) (rest : Bytes) (hs : IsRow s.sentinel)
    (hrows : Unmarked s.sentinel rows) (hlistens : child.listens state.child = true)
    (hprinted : state.unread
        ++ (child.feed state.child (utf8 (requestText s expression ++ sentinelText s))).1
      = printout s.sentinel rows ++ rest)
    (herrors : errors.isMatch (unlines rows) = false) :
    (∀ place expected,
        ((c.check ⟨place, expression, expected⟩).run.hold (session child s errors) state).1
            = .ok .match ↔ expected = heard rows)
      ∧ ((∀ place expected,
          ((c.check ⟨place, expression, expected⟩).run.hold (session child s errors) state).1
              = .ok .match ↔ expected = rows)
        ↔ rows.getLast? ≠ some []) := by
  have hcheck : ∀ place expected,
      ((c.check ⟨place, expression, expected⟩).run.hold (session child s errors) state).1
          = .ok .match ↔ expected = heard rows :=
    fun _ _ => check_rows hc hs hrows hlistens hprinted herrors
  refine ⟨hcheck, ?_, ?_⟩
  · intro hverbatim hblank
    have hall := (hverbatim (.label []) rows).mpr rfl
    exact heard_ne_self hblank ((hcheck _ rows).mp hall).symm
  · intro hlast place expected
    rw [hcheck, heard_eq_self hlast]

/-- The judgement on what a child prints that prints these rows for everything. -/
def sampleCheck (rows expected : List Text) : Except Blame Verdict :=
  ((({ strategy := .lineExact } : Comparison).check ⟨.label "m", "show", expected⟩).run.hold
    (session (printing (printout "--exemplar-done--" rows)) {} samplePattern)
    { child := () }).1

/-- Blank rows in front of the last row are compared like any other row. -/
theorem check_verbatim_iff_sample :
    sampleCheck ["", "foo", "", "", "bar"] ["", "foo", "", "", "bar"] = .ok .match
      ∧ sampleCheck ["", "foo", "", "", "bar"] ["", "foo", "", "bar"] ≠ .ok .match := by
  have hcheck := (check_verbatim_iff
    (printing (printout "--exemplar-done--" ["", "foo", "", "", "bar"])) {} samplePattern
    { child := () } { strategy := .lineExact } rfl "show" ["", "foo", "", "", "bar"] []
    (by decide) (by decide) rfl (List.append_nil _).symm (by decide +kernel)).2.mpr (by decide)
  exact ⟨(hcheck _ _).mpr rfl, fun h => absurd ((hcheck _ _).mp h) (by decide)⟩

/-- **Not every check is exact:** where `foo` and a blank row are printed, these two
rows are not accepted. -/
theorem check_not_verbatim :
    ¬ ∀ (σ : Type) (child : Child σ) (s : InterpreterSettings) (errors : Regex.Matcher)
        (state : State σ) (c : Comparison) (step : Step) (rows : List Text) (rest : Bytes),
        c.strategy = .lineExact → IsRow s.sentinel → Unmarked s.sentinel rows →
        child.listens state.child = true →
        state.unread
            ++ (child.feed state.child (utf8 (requestText s step.expression ++ sentinelText s))).1
          = printout s.sentinel rows ++ rest →
        errors.isMatch (unlines rows) = false →
        (((c.check step).run.hold (session child s errors) state).1 = .ok .match
          ↔ step.expected = rows) := by
  intro hexact
  -- The blank row is lost, so that what is expected is one row too long.
  let child := printing (printout "--exemplar-done--" ["foo", ""])
  let step : Step := ⟨.label "m", "echo foo; echo", ["foo", ""]⟩
  have hs : IsRow ({} : InterpreterSettings).sentinel := by decide
  have hrows : Unmarked ({} : InterpreterSettings).sentinel ["foo", ""] := by decide
  have hquiet : samplePattern.isMatch (unlines ["foo", ""]) = false := by decide +kernel
  have hmatch := (hexact Unit child {} samplePattern { child := () } { strategy := .lineExact } step
    ["foo", ""] [] rfl hs hrows rfl (List.append_nil _).symm hquiet).mpr rfl
  have hheard : step.expected = heard ["foo", ""] :=
    (check_rows rfl hs hrows rfl (List.append_nil _).symm hquiet).mp hmatch
  exact absurd hheard (by decide)

end Wire

end Rehearsal
