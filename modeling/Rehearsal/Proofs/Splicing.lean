/-
  Rehearsal.Proofs.Splicing
  ──────────────────────────────────────
  **Different texts are put into different calls.**

  A call is a template with literals in place of its placeholders.  Two calls of one
  template have the same text around the literals, and a literal says where it ends
  (`Text.quote_append_inj`).  So along the template both calls can be read in step:
  whatever stands behind a filled template can be told from it, and the literals at a
  placeholder are equal if the calls are.

    • `Bindings.quoted` — literals as values,
    • `fill_quoted_append_inj` — a template filled with literals says where it ends,
    • `value?_eq_of_fill_quoted_eq` — equal calls have equal texts at every placeholder,
    • `Comparison.calls_unambiguous` — cleanup calls and calls of the predicate.
-/
import Rehearsal.Proofs.Quoting

namespace Rehearsal

/-! ## §1. Literals as values. -/

namespace Bindings

/-- Every value as a literal. -/
def quoted (texts : Bindings) : Bindings :=
  texts.map fun binding => (binding.1, Text.quote binding.2)

/-- Both lists bind the same names, in the same order. -/
def SameNames (texts texts' : Bindings) : Prop := texts.map Prod.fst = texts'.map Prod.fst

variable {texts texts' : Bindings}

theorem value?_quoted (texts : Bindings) (name : Text) :
    texts.quoted.value? name = (texts.value? name).map Text.quote := by
  induction texts with
  | nil => rfl
  | cons binding texts ih =>
    obtain ⟨key, text⟩ := binding
    show (if key = name then _ else quoted texts |>.value? name)
      = (if key = name then some text else value? name texts).map Text.quote
    split
    · rfl
    · exact ih

theorem Braceless.quoted (h : texts.Braceless) : texts.quoted.Braceless := by
  intro binding hbinding
  obtain ⟨source, hsource, rfl⟩ := List.mem_map.mp hbinding
  exact h source hsource

/-- What one list binds, the other one binds as well. -/
theorem SameNames.isSome_value? (h : SameNames texts texts') (name : Text) :
    (texts.value? name).isSome = (texts'.value? name).isSome := by
  induction texts generalizing texts' with
  | nil => rw [List.map_eq_nil_iff.mp h.symm]
  | cons binding texts ih =>
    obtain ⟨⟨key', text'⟩, rest', rfl, hkey, hrest⟩ := List.map_eq_cons_iff.mp h.symm
    obtain ⟨key, text⟩ := binding
    obtain rfl : key' = key := hkey
    show (if key' = name then some text else value? name texts).isSome
      = (if key' = name then some text' else value? name rest').isSome
    split
    · rfl
    · exact ih hrest.symm

end Bindings

namespace Text

variable {texts texts' : Bindings} {t value rest : Text}

/-! ## §2. Calls of one template. -/

/-- A placeholder of one call is one of the other call, and both leave the same text. -/
theorem placeholder?_quoted (hnames : texts.SameNames texts')
    (h : placeholder? texts.quoted t = some (value, rest)) :
    ∃ text text', value = quote text ∧ placeholder? texts'.quoted t = some (quote text', rest) := by
  obtain ⟨name, rfl, hname, hvalue⟩ := exists_of_placeholder? h
  rw [Bindings.value?_quoted] at hvalue
  obtain ⟨text, htext, rfl⟩ := Option.map_eq_some_iff.mp hvalue
  have hbound := hnames.isSome_value? name
  rw [htext] at hbound
  obtain ⟨text', htext'⟩ := Option.isSome_iff_exists.mp hbound.symm
  refine ⟨text, text', rfl, placeholder?_bound hname ?_ rest⟩
  rw [Bindings.value?_quoted, htext']
  rfl

theorem placeholder?_quoted_none (hnames : texts.SameNames texts')
    (h : placeholder? texts.quoted t = none) : placeholder? texts'.quoted t = none := by
  rw [Option.eq_none_iff_forall_ne_some]
  rintro ⟨value, rest⟩ h'
  obtain ⟨_, _, -, hfound⟩ := placeholder?_quoted hnames.symm h'
  rw [h] at hfound
  cases hfound

/-- **A template filled with literals says where it ends,** whatever the literals are. -/
theorem fill_quoted_append_inj (hnames : texts.SameNames texts') {template more more' : Text}
    (h : fill texts.quoted template ++ more = fill texts'.quoted template ++ more') :
    more = more' := by
  -- Along the scan of the template, which goes the same way for both.
  induction template using fill.induct texts.quoted with
  | case1 =>
    rw [fill_nil, fill_nil] at h
    exact h
  | case2 t value rest hfound ih =>
    obtain ⟨text, text', rfl, hfound'⟩ := placeholder?_quoted hnames hfound
    rw [fill_bound hfound, fill_bound hfound', List.append_assoc, List.append_assoc] at h
    exact ih (quote_append_inj h).2
  | case3 t hnone ih =>
    rw [fill_unbound hnone, fill_unbound (placeholder?_quoted_none hnames hnone)] at h
    exact ih (List.cons_inj_right _ |>.mp h)
  | case4 c t hc ih =>
    rw [fill_cons hc, fill_cons hc] at h
    exact ih (List.cons_inj_right _ |>.mp h)

/-- **Equal calls have equal texts** at every placeholder that occurs. -/
theorem value?_eq_of_fill_quoted_eq (hb : texts.Braceless) (hnames : texts.SameNames texts')
    {template : Text} (h : fill texts.quoted template = fill texts'.quoted template)
    (name : Text) (hoccurs : '{' :: name ++ ['}'] <:+: template) {text text' : Text}
    (htext : texts.value? name = some text) (htext' : texts'.value? name = some text') :
    text = text' := by
  have hb' : texts'.Braceless := by
    refine Bindings.braceless_of_names (texts.map Prod.fst) (fun name hname => ?_) hnames.symm
    obtain ⟨binding, hbinding, rfl⟩ := List.mem_map.mp hname
    exact hb binding hbinding
  obtain ⟨before, behind, rfl⟩ := hoccurs
  have hsplit : before ++ ('{' :: name ++ ['}']) ++ behind
      = before ++ '{' :: name ++ '}' :: behind := by simp
  rw [hsplit, fill_append_placeholder hb.quoted (by rw [Bindings.value?_quoted, htext]; rfl),
    fill_append_placeholder hb'.quoted (by rw [Bindings.value?_quoted, htext']; rfl),
    List.append_assoc, List.append_assoc] at h
  exact (quote_append_inj (fill_quoted_append_inj hnames h)).1

end Text

/-! ## §3. Calls of a comparison. -/

namespace Comparison

/-- The call of a predicate tells both sides. -/
theorem equalsCall_eq_iff {template : Text} (hactual : ("{actual}" : Text) <:+: template)
    (hexpected : ("{expected}" : Text) <:+: template) (actual expected actual' expected' : Text) :
    equalsCall template actual expected = equalsCall template actual' expected'
      ↔ actual = actual' ∧ expected = expected' := by
  have hb : Bindings.Braceless [("actual", actual), ("expected", expected)] :=
    Bindings.braceless_of_names ["actual", "expected"] (by decide) rfl
  have hnames : Bindings.SameNames [("actual", actual), ("expected", expected)]
      [("actual", actual'), ("expected", expected')] := rfl
  constructor
  · intro h
    exact ⟨Text.value?_eq_of_fill_quoted_eq hb hnames h "actual" hactual rfl rfl,
      Text.value?_eq_of_fill_quoted_eq hb hnames h "expected" hexpected rfl rfl⟩
  · rintro ⟨rfl, rfl⟩
    rfl

/-- The call of a cleanup tells the text. -/
theorem cleanupCall_eq_iff {template : Text} (htext : ("{text}" : Text) <:+: template)
    (text text' : Text) :
    cleanupCall template text = cleanupCall template text' ↔ text = text' := by
  have hb : Bindings.Braceless [("text", text)] :=
    Bindings.braceless_of_names ["text"] (by decide) rfl
  have hnames : Bindings.SameNames [("text", text)] [("text", text')] := rfl
  constructor
  · intro h
    exact Text.value?_eq_of_fill_quoted_eq hb hnames h "text" htext rfl rfl
  · rintro rfl
    rfl

/-- **Different texts are put into different calls.**  If both sides stand in the
template of the predicate, however often and between whatever other text, then its call
tells both of them; if the text stands in the template of a cleanup, the cleanup's call
tells the text. -/
theorem calls_unambiguous (template : Text) :
    (("{actual}" : Text) <:+: template → ("{expected}" : Text) <:+: template →
        ∀ actual expected actual' expected',
          equalsCall template actual expected = equalsCall template actual' expected'
            ↔ actual = actual' ∧ expected = expected')
      ∧ (("{text}" : Text) <:+: template →
        ∀ text text', cleanupCall template text = cleanupCall template text' ↔ text = text') :=
  ⟨equalsCall_eq_iff, cleanupCall_eq_iff⟩

/-- Quotes inside the texts do not shift the border between two literals that stand next
to each other, and a placeholder inside a text stays as it is. -/
theorem calls_unambiguous_sample :
    let predicate : Text := "eq \x7b{actual}{expected}\x7d"
    let cleanup : Text := "clean {text}"
    ("{actual}" : Text) <:+: predicate ∧ ("{expected}" : Text) <:+: predicate
      ∧ equalsCall predicate "a\"\"b" "c" ≠ equalsCall predicate "a" "b\"\"c"
      ∧ ("{text}" : Text) <:+: cleanup
      ∧ cleanupCall cleanup "{text}" ≠ cleanupCall cleanup "\"{text}\"" := by
  intro predicate cleanup
  have hactual : ("{actual}" : Text) <:+: predicate := ⟨"eq \x7b", "{expected}\x7d", rfl⟩
  have hexpected : ("{expected}" : Text) <:+: predicate := ⟨"eq \x7b{actual}", "\x7d", rfl⟩
  have htext : ("{text}" : Text) <:+: cleanup := ⟨"clean ", [], rfl⟩
  have hequals := (calls_unambiguous predicate).1 hactual hexpected
  have hcleanup := (calls_unambiguous cleanup).2 htext
  refine ⟨hactual, hexpected, fun h => ?_, htext, fun h => ?_⟩
  · exact absurd ((hequals ..).mp h).1 (by decide)
  · exact absurd ((hcleanup ..).mp h) (by decide)

end Comparison

end Rehearsal
