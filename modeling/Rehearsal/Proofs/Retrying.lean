/-
  Rehearsal.Proofs.Retrying
  ──────────────────────────────────────
  **The exchange about a law.**

  A law is put to the interpreter once, and a second time, closed over the names that
  are unbound, if the first error text reports any.  The rules of `Exchange` say what is
  sent and what comes of it, whatever the law and the names look like: texts are put into
  templates by replacement (`Text.Replaces`), and a text that looks like a placeholder
  itself stays as it is.

    • `LawChecker.reported` — the names that an error text reports,
    • `LawChecker.Exchange` — the rules,
    • `LawChecker.check_exchange` — a check is the one exchange that the rules allow.
-/
import Rehearsal.Proofs.Examiner
import Rehearsal.Proofs.Filling

namespace Rehearsal

namespace LawChecker

/-! ## §1. Names. -/

/-- The names that an error text reports as unbound: the captured groups that are
present, each of them where it occurs first.  Without a pattern there are none. -/
def reported (c : LawChecker) (message : Text) : List Text :=
  match c.unbound with
  | none => []
  | some captures => ((captures message).filterMap id).eraseDups

/-- A name that was not seen yet is left in front of the others. -/
theorem removeAll_cons_of_not_mem {name : Text} {seen : List Text} (h : name ∉ seen)
    (names : List Text) : (name :: names).removeAll seen = name :: names.removeAll seen := by
  unfold List.removeAll
  rw [List.filter_cons, if_pos (by simpa using h)]

theorem removeAll_cons_of_mem {name : Text} {seen : List Text} (h : name ∈ seen)
    (names : List Text) : (name :: names).removeAll seen = names.removeAll seen := by
  unfold List.removeAll
  rw [List.filter_cons, if_neg (by simpa using h)]

theorem removeAll_concat (names seen : List Text) (name : Text) :
    names.removeAll (seen ++ [name]) = (names.removeAll seen).filter fun n => !n == name := by
  unfold List.removeAll
  rw [List.filter_filter]
  refine List.filter_congr fun n _ => ?_
  by_cases hname : n = name <;> simp [hname]

/-- What is collected behind the names seen so far. -/
theorem distinct_eq (seen : List Text) (captured : List (Option Text)) :
    distinct seen captured = seen ++ ((captured.filterMap id).removeAll seen).eraseDups := by
  induction captured generalizing seen with
  | nil => exact (List.append_nil seen).symm
  | cons group captured ih =>
    cases group with
    | none => exact ih seen
    | some name =>
      show distinct (if name ∈ seen then seen else seen ++ [name]) captured
        = seen ++ ((name :: captured.filterMap id).removeAll seen).eraseDups
      by_cases h : name ∈ seen
      · rw [if_pos h, ih, removeAll_cons_of_mem h]
      · rw [if_neg h, ih, removeAll_concat, removeAll_cons_of_not_mem h, List.eraseDups_cons,
          List.append_assoc, List.singleton_append]

/-- **The names of a retry** are the reported ones. -/
theorem unboundNames_eq (c : LawChecker) (message : Text) :
    c.unboundNames message = c.reported message := by
  unfold unboundNames reported
  cases c.unbound with
  | none => rfl
  | some captures =>
    have h := distinct_eq [] (captures message)
    rwa [List.nil_append, List.removeAll_nil] at h

/-- The second group is absent, the last one was captured before. -/
example (template lambda message : Text) :
    (⟨template, some fun _ => [some "xs", none, some "y", some "xs"], lambda⟩ :
      LawChecker).unboundNames message = (["xs", "y"] : List Text) := rfl

/-- The library's way to put names together with spaces. -/
theorem joinNames_eq (names : List Text) : joinNames names = [' '].intercalate names := by
  induction names with
  | nil => rfl
  | cons name names ih =>
    cases names with
    | nil => simp [joinNames]
    | cons next names =>
      rw [List.intercalate_cons_cons, ← ih]
      simp [joinNames]

/-! ## §2. The rules. -/

/-- What an answer of the driver comes to, if there is no other try. -/
def concluded : Answer → Outcome
  | .ok output => classify output
  | .error message => .error message

/-- **The exchange about a law:** its outcome, the requests and the state they lead to.
The law is put into the template.  A printed output is classified; an error stands if it
reports no names.  Otherwise the law is closed over these names and put into the template
again, and what is answered then is final. -/
inductive Exchange {σ : Type} (c : LawChecker) (s : Session σ) (law : Text) (before : σ) :
    Outcome → List Event → σ → Prop
  | answered {first output : Text} {after : σ}
      (put : Text.Replaces [("expression", law)] c.template first)
      (answer : s.evaluate before first = (.ok output, after)) :
      Exchange c s law before (classify output) [.asked first] after
  | stands {first message : Text} {after : σ}
      (put : Text.Replaces [("expression", law)] c.template first)
      (answer : s.evaluate before first = (.error message, after))
      (nameless : c.reported message = []) :
      Exchange c s law before (.error message) [.asked first] after
  | retried {first message closed second : Text} {mid after : σ} {final : Answer}
      (put : Text.Replaces [("expression", law)] c.template first)
      (answer : s.evaluate before first = (.error message, mid))
      (named : c.reported message ≠ [])
      (closing : Text.Replaces
        [("variables", [' '].intercalate (c.reported message)), ("expression", law)]
        c.lambda closed)
      (again : Text.Replaces [("expression", closed)] c.template second)
      (final_answer : s.evaluate mid second = (final, after)) :
      Exchange c s law before (concluded final) [.asked first, .asked second] after

/-! ## §3. Calls. -/

theorem replaces_call_iff (c : LawChecker) (law : Text) {call : Text} :
    Text.Replaces [("expression", law)] c.template call ↔ call = c.call law :=
  Text.replaces_iff (Bindings.braceless_of_names ["expression"] (by decide) rfl)

theorem replaces_close_iff (c : LawChecker) (names : List Text) (law : Text) {closed : Text} :
    Text.Replaces [("variables", [' '].intercalate names), ("expression", law)] c.lambda closed
      ↔ closed = c.close names law := by
  rw [← joinNames_eq]
  exact Text.replaces_iff
    (Bindings.braceless_of_names ["variables", "expression"] (by decide) rfl)

/-! ## §4. Checks. -/

/-- What is done about an error of the first call. -/
def followUp (c : LawChecker) (law message : Text) : Inquiry Outcome :=
  if c.reported message = [] then .done (.error message)
  else .ask (c.call (c.close (c.reported message) law)) fun answer => .done (concluded answer)

/-- A check is one call, and another one where there are names to close the law over. -/
theorem check_eq (c : LawChecker) (law : Text) :
    c.check law = .ask (c.call law) fun
      | .ok output => .done (classify output)
      | .error message => c.followUp law message := by
  refine congrArg (Inquiry.ask (c.call law)) (funext fun answer => ?_)
  cases answer with
  | ok output => rfl
  | error message =>
    unfold followUp
    dsimp only
    rw [← unboundNames_eq]
    cases hnames : c.unboundNames message with
    | nil => rw [if_pos rfl]
    | cons name names =>
      rw [if_neg (List.cons_ne_nil name names)]
      refine congrArg (Inquiry.ask _) (funext fun answer => ?_)
      cases answer with
      | ok output => rfl
      | error message => rfl

section Checks

variable {σ : Type} {c : LawChecker} {s : Session σ} {law : Text} {before after : σ}
  {outcome : Outcome} {requests : List Event}

/-- **An exchange is what a check does.** -/
theorem Exchange.hold_eq (h : c.Exchange s law before outcome requests after) :
    (c.check law).hold s before = (outcome, requests, after) := by
  rw [check_eq]
  cases h with
  | answered put answer =>
    obtain rfl := (replaces_call_iff c law).mp put
    rw [Inquiry.hold, answer]
    rfl
  | stands put answer nameless =>
    obtain rfl := (replaces_call_iff c law).mp put
    rw [Inquiry.hold, answer]
    dsimp only
    rw [followUp, if_pos nameless]
    rfl
  | retried put answer named closing again final_answer =>
    obtain rfl := (replaces_call_iff c law).mp put
    obtain rfl := (replaces_close_iff c _ law).mp closing
    obtain rfl := (replaces_call_iff c _).mp again
    rw [Inquiry.hold, answer]
    dsimp only
    rw [followUp, if_neg named, Inquiry.hold, final_answer]
    rfl

/-- **A check goes by the rules,** whatever the session answers. -/
theorem exchange_hold (c : LawChecker) (law : Text) (s : Session σ) (before : σ) :
    c.Exchange s law before ((c.check law).hold s before).1 ((c.check law).hold s before).2.1
      ((c.check law).hold s before).2.2 := by
  have put := (replaces_call_iff c law).mpr rfl
  obtain ⟨outcome, requests, after, h⟩ :
      ∃ outcome requests after, c.Exchange s law before outcome requests after := by
    rcases hanswer : s.evaluate before (c.call law) with ⟨answer, mid⟩
    cases answer with
    | ok output => exact ⟨_, _, _, .answered put hanswer⟩
    | error message =>
      by_cases hnames : c.reported message = []
      · exact ⟨_, _, _, .stands put hanswer hnames⟩
      · exact ⟨_, _, _, .retried put hanswer hnames ((replaces_close_iff c _ law).mpr rfl)
          ((replaces_call_iff c _).mpr rfl) rfl⟩
  rw [h.hold_eq]
  exact h

/-- **A check is the one exchange that the rules allow.**  So it makes one call or two,
and the second one exactly if the first one fails with an error that reports names. -/
theorem check_exchange (c : LawChecker) (law : Text) (s : Session σ) (before after : σ)
    (outcome : Outcome) (requests : List Event) :
    (c.check law).hold s before = (outcome, requests, after)
      ↔ c.Exchange s law before outcome requests after := by
  constructor
  · intro h
    have hexchange := exchange_hold c law s before
    rwa [h] at hexchange
  · exact Exchange.hold_eq

end Checks

end LawChecker

end Rehearsal
