/-
  Rehearsal.Proofs.Filling
  ──────────────────────────────────────
  **Filling replaces all bound placeholders at once.**

  A name has no brace in it, so a placeholder that starts at one brace never reaches
  over the next opening brace.  Therefore a template can be cut in front of every
  opening brace and both parts can be filled on their own, whatever other braces
  they have; a bound placeholder then stands at the start of its part and gives way
  to its value, which is not looked at again.

    • `placeholder?_append_brace` — no placeholder reaches over an opening brace,
    • `fill_append_brace` — cutting in front of an opening brace,
    • `fill_append_placeholder` — replacing one placeholder,
    • `fill_eq_self` — templates without a bound placeholder,
    • `Replaces` — what replacing the placeholders means, from left to right,
    • `replaces_iff` — a filled template is the one text that this comes to.
-/
import Rehearsal.Comparison

namespace Rehearsal

/-! ## §1. Names. -/

/-- No name has a brace in it. -/
def Bindings.Braceless (b : Bindings) : Prop :=
  ∀ binding ∈ b, '{' ∉ binding.1 ∧ '}' ∉ binding.1

/-- Only the names count. -/
theorem Bindings.braceless_of_names (names : List Text)
    (h : ∀ name ∈ names, '{' ∉ name ∧ '}' ∉ name) {b : Bindings} (hb : b.map Prod.fst = names) :
    b.Braceless :=
  fun _ hbinding => h _ (hb ▸ List.mem_map_of_mem hbinding)

/-- No bound placeholder stands in the text. -/
def Bindings.Free (b : Bindings) (t : Text) : Prop :=
  ∀ binding ∈ b, ¬ '{' :: binding.1 ++ ['}'] <:+: t

theorem Bindings.free_nil (b : Bindings) : b.Free [] := by
  intro binding _ hin
  cases List.infix_nil.mp hin

theorem Bindings.mem_of_value? {b : Bindings} {name value : Text}
    (h : b.value? name = some value) : (name, value) ∈ b := by
  induction b with
  | nil => cases h
  | cons binding b ih =>
    obtain ⟨key, v⟩ := binding
    unfold value? at h
    split at h
    · rename_i hkey
      cases h
      exact hkey ▸ List.mem_cons_self ..
    · exact List.mem_cons_of_mem _ (ih h)

/-- A name that is bound has a value, though perhaps that of another binding of it. -/
theorem Bindings.exists_value? {b : Bindings} {binding : Text × Text} (h : binding ∈ b) :
    ∃ value, b.value? binding.1 = some value := by
  induction b with
  | nil => cases h
  | cons first b ih =>
    obtain ⟨key, v⟩ := first
    by_cases hkey : key = binding.1
    · exact ⟨v, if_pos hkey⟩
    · rcases List.mem_cons.mp h with rfl | h
      · exact absurd rfl hkey
      · obtain ⟨value, hvalue⟩ := ih h
        exact ⟨value, (if_neg hkey).trans hvalue⟩

namespace Text

variable {b : Bindings} {name value t rest : Text}

/-- A name ends at the first closing brace. -/
theorem untilBrace_append (h : '}' ∉ name) (rest : Text) :
    untilBrace (name ++ '}' :: rest) = some (name, rest) := by
  induction name with
  | nil => rfl
  | cons c name ih =>
    have hc : c ≠ '}' := Ne.symm (List.ne_of_not_mem_cons h)
    rw [List.cons_append, untilBrace, if_neg hc, ih (List.not_mem_of_not_mem_cons h)]
    rfl

theorem eq_of_untilBrace (h : untilBrace t = some (name, rest)) :
    t = name ++ '}' :: rest ∧ '}' ∉ name := by
  induction t generalizing name with
  | nil => cases h
  | cons c t ih =>
    unfold untilBrace at h
    split at h
    · rename_i hc
      cases h
      exact ⟨hc ▸ rfl, List.not_mem_nil⟩
    · rename_i hc
      obtain ⟨⟨start, behind⟩, hstart, heq⟩ := Option.map_eq_some_iff.mp h
      cases heq
      obtain ⟨rfl, hmem⟩ := ih hstart
      exact ⟨rfl, List.not_mem_cons_of_ne_of_not_mem (Ne.symm hc) hmem⟩

/-! ## §2. Placeholders. -/

theorem placeholder?_bound (hname : '}' ∉ name) (h : b.value? name = some value) (rest : Text) :
    placeholder? b (name ++ '}' :: rest) = some (value, rest) := by
  unfold placeholder?
  rw [untilBrace_append hname]
  show (b.value? name).map _ = _
  rw [h]
  rfl

/-- A placeholder has a bound name. -/
theorem exists_of_placeholder? (h : placeholder? b t = some (value, rest)) :
    ∃ name, t = name ++ '}' :: rest ∧ '}' ∉ name ∧ b.value? name = some value := by
  unfold placeholder? at h
  split at h
  · cases h
  · rename_i name behind hname
    obtain ⟨v, hv, heq⟩ := Option.map_eq_some_iff.mp h
    cases heq
    obtain ⟨ht, hmem⟩ := eq_of_untilBrace hname
    exact ⟨name, ht, hmem, hv⟩

/-- **No placeholder reaches over an opening brace.** -/
theorem placeholder?_append_brace (hb : b.Braceless) (t more : Text) :
    placeholder? b (t ++ '{' :: more)
      = (placeholder? b t).map fun (value, rest) => (value, rest ++ '{' :: more) := by
  cases ht : placeholder? b t with
  | some found =>
    obtain ⟨value, rest⟩ := found
    obtain ⟨name, rfl, hname, hv⟩ := exists_of_placeholder? ht
    rw [List.append_assoc, List.cons_append, placeholder?_bound hname hv]
    rfl
  | none =>
    cases hmore : placeholder? b (t ++ '{' :: more) with
    | none => rfl
    | some found =>
      obtain ⟨value, rest⟩ := found
      obtain ⟨name, heq, hname, hv⟩ := exists_of_placeholder? hmore
      rcases List.append_eq_append_iff.mp heq with ⟨front, rfl, hfront⟩ | ⟨behind, rfl, hbehind⟩
      · -- The opening brace would be in the name, or be its closing brace.
        cases front with
        | nil => cases hfront
        | cons c front =>
          cases hfront
          have hmem : '{' ∈ t ++ '{' :: front := List.mem_append_right t (List.mem_cons_self ..)
          exact absurd hmem (hb _ (Bindings.mem_of_value? hv)).1
      · cases behind with
        | nil => cases hbehind
        | cons c behind =>
          -- Then the placeholder would stand in the text itself.
          cases hbehind
          rw [placeholder?_bound hname hv] at ht
          cases ht

/-! ## §3. Filling. -/

theorem fill_nil (b : Bindings) : fill b [] = [] := by
  rw [fill]

theorem fill_cons {c : Char} (hc : c ≠ '{') (b : Bindings) (t : Text) :
    fill b (c :: t) = c :: fill b t := by
  rw [fill, if_neg hc]

theorem fill_bound (h : placeholder? b t = some (value, rest)) :
    fill b ('{' :: t) = value ++ fill b rest := by
  rw [fill, if_pos rfl]
  split
  · rename_i v r hfound
    rw [h] at hfound
    cases hfound
    rfl
  · rename_i hnone
    rw [h] at hnone
    cases hnone

theorem fill_unbound (h : placeholder? b t = none) : fill b ('{' :: t) = '{' :: fill b t := by
  rw [fill, if_pos rfl]
  split
  · rename_i hfound
    rw [h] at hfound
    cases hfound
  · rfl

/-- **A template can be cut in front of every opening brace.** -/
theorem fill_append_brace (hb : b.Braceless) (before more : Text) :
    fill b (before ++ '{' :: more) = fill b before ++ fill b ('{' :: more) := by
  -- Along the scan of the first part.
  induction before using fill.induct b with
  | case1 => rw [fill_nil, List.nil_append, List.nil_append]
  | case2 t value rest h ih =>
    have hmore := placeholder?_append_brace hb t more
    rw [h] at hmore
    rw [List.cons_append, fill_bound hmore, ih, fill_bound h, List.append_assoc]
  | case3 t h ih =>
    have hmore := placeholder?_append_brace hb t more
    rw [h] at hmore
    rw [List.cons_append, fill_unbound hmore, ih, fill_unbound h, List.cons_append]
  | case4 c t hc ih =>
    rw [List.cons_append, fill_cons hc, ih, fill_cons hc, List.cons_append]

/-- **A bound placeholder is replaced,** wherever it stands. -/
theorem fill_append_placeholder (hb : b.Braceless) (h : b.value? name = some value)
    (before behind : Text) :
    fill b (before ++ '{' :: name ++ '}' :: behind)
      = fill b before ++ value ++ fill b behind := by
  have hname : '}' ∉ name := (hb _ (Bindings.mem_of_value? h)).2
  rw [List.append_assoc, List.cons_append, fill_append_brace hb,
    fill_bound (placeholder?_bound hname h behind), List.append_assoc]

/-- **Nothing else is replaced.** -/
theorem fill_eq_self (h : b.Free t) : fill b t = t := by
  induction t using fill.induct b with
  | case1 => exact fill_nil b
  | case2 t value rest hfound ih =>
    obtain ⟨name, rfl, -, hv⟩ := exists_of_placeholder? hfound
    have hin : '{' :: name ++ ['}'] <:+: '{' :: (name ++ '}' :: rest) := ⟨[], rest, by simp⟩
    exact absurd hin (h _ (Bindings.mem_of_value? hv))
  | case3 t hnone ih =>
    rw [fill_unbound hnone, ih fun binding hbinding hin => h binding hbinding (List.infix_cons hin)]
  | case4 c t hc ih =>
    rw [fill_cons hc, ih fun binding hbinding hin => h binding hbinding (List.infix_cons hin)]

/-- What neither the template nor a value has in it, a filled template does not have
either. -/
theorem not_mem_fill {c : Char} (hvalues : ∀ binding ∈ b, c ∉ binding.2) (ht : c ∉ t) :
    c ∉ fill b t := by
  induction t using fill.induct b with
  | case1 => rwa [fill_nil]
  | case2 t value rest hfound ih =>
    obtain ⟨name, rfl, -, hv⟩ := exists_of_placeholder? hfound
    have hrest : c ∉ rest := fun hc => ht (by simp [hc])
    rw [fill_bound hfound, List.mem_append, not_or]
    exact ⟨hvalues _ (Bindings.mem_of_value? hv), ih hrest⟩
  | case3 t hnone ih =>
    rw [fill_unbound hnone]
    exact List.not_mem_cons_of_ne_of_not_mem (List.ne_of_not_mem_cons ht)
      (ih (List.not_mem_of_not_mem_cons ht))
  | case4 d t hd ih =>
    rw [fill_cons hd]
    exact List.not_mem_cons_of_ne_of_not_mem (List.ne_of_not_mem_cons ht)
      (ih (List.not_mem_of_not_mem_cons ht))

/-! ## §4. Replacement from left to right. -/

/-- **A text with its placeholders replaced,** read from left to right: it stays as it is
up to the first bound placeholder, this gives way to its value, and what follows is
replaced in the same way. -/
inductive Replaces (b : Bindings) : Text → Text → Prop
  | plain {t : Text} (h : b.Free t) : Replaces b t t
  | placeholder {before name value behind result : Text} (hbefore : b.Free before)
      (hvalue : b.value? name = some value) (more : Replaces b behind result) :
      Replaces b (before ++ '{' :: name ++ '}' :: behind) (before ++ value ++ result)

/-- Only a placeholder right at the front is seen from there. -/
theorem free_cons (hb : b.Braceless) {c : Char} (ht : b.Free t)
    (hc : c = '{' → placeholder? b t = none) : b.Free (c :: t) := by
  intro binding hbinding hin
  rcases List.infix_cons_iff.mp hin with ⟨rest, hfront⟩ | hbehind
  · rw [List.cons_append, List.cons_append, List.append_assoc] at hfront
    obtain ⟨rfl, rfl⟩ := List.cons.inj hfront
    obtain ⟨value, hvalue⟩ := Bindings.exists_value? hbinding
    have hfound := placeholder?_bound (hb _ hbinding).2 hvalue rest
    exact absurd (hfound.symm.trans (hc rfl)) (by simp)
  · exact ht binding hbinding hbehind

/-- What stands in front of the first placeholder stays. -/
theorem Replaces.cons (hb : b.Braceless) {c : Char} {result : Text} (h : Replaces b t result)
    (hc : c = '{' → placeholder? b t = none) : Replaces b (c :: t) (c :: result) := by
  cases h with
  | plain ht => exact .plain (free_cons hb ht hc)
  | @placeholder before name value behind result hbefore hvalue more =>
    -- With more behind it, a placeholder in the plain text would still be one.
    have hfree : c = '{' → placeholder? b before = none := by
      intro hbrace
      have hnone := hc hbrace
      rw [List.append_assoc, List.cons_append, placeholder?_append_brace hb] at hnone
      exact Option.map_eq_none_iff.mp hnone
    exact .placeholder (free_cons hb hbefore hfree) hvalue more

/-- **Filling is the one replacement** from left to right. -/
theorem replaces_iff (hb : b.Braceless) {result : Text} : Replaces b t result ↔ result = fill b t := by
  constructor
  · intro h
    induction h with
    | plain ht => exact (fill_eq_self ht).symm
    | placeholder hbefore hvalue more ih =>
      rw [fill_append_placeholder hb hvalue, fill_eq_self hbefore, ih]
  · rintro rfl
    -- Along the scan, which goes on right behind every brace that it keeps.
    induction t using fill.induct b with
    | case1 =>
      rw [fill_nil]
      exact .plain b.free_nil
    | case2 t value rest hfound ih =>
      obtain ⟨name, rfl, -, hvalue⟩ := exists_of_placeholder? hfound
      rw [fill_bound hfound]
      exact Replaces.placeholder b.free_nil hvalue ih
    | case3 t hnone ih =>
      rw [fill_unbound hnone]
      exact ih.cons hb fun _ => hnone
    | case4 c t hc ih =>
      rw [fill_cons hc]
      exact ih.cons hb fun hbrace => absurd hbrace hc

/-- **Filling is simultaneous replacement.**  A bound placeholder gives way to the
value of its first binding and to nothing else, the text in front of it and the text
behind it are filled on their own, and what has no bound placeholder stays as it is. -/
theorem fill_simultaneous (b : Bindings) (hb : b.Braceless) :
    (∀ name value, b.value? name = some value → ∀ before behind,
        fill b (before ++ '{' :: name ++ '}' :: behind)
          = fill b before ++ value ++ fill b behind)
      ∧ ∀ t, (∀ binding ∈ b, ¬ '{' :: binding.1 ++ ['}'] <:+: t) → fill b t = t :=
  ⟨fun _ _ h before behind => fill_append_placeholder hb h before behind, fun _ => fill_eq_self⟩

/-- The braces around `{actual}` stay, and so does what looks like a placeholder in
its value; the second value of a name is never used. -/
theorem fill_simultaneous_sample :
    let b : Bindings :=
      [("actual", "\x7bexpected\x7d"), ("expected", "1"), ("actual", "2")]
    b.Braceless
      ∧ fill b ("\x7bx\x7d\x7b\x7b" ++ '{' :: "actual" ++ '}' :: "\x7d \x7d")
        = "\x7bx\x7d\x7b\x7b" ++ "\x7bexpected\x7d" ++ "\x7d \x7d" := by
  intro b
  have hb : b.Braceless := by
    unfold Bindings.Braceless
    decide
  obtain ⟨hreplaced, hkept⟩ := fill_simultaneous b hb
  refine ⟨hb, ?_⟩
  rw [hreplaced "actual" _ rfl, hkept _ (by decide), hkept _ (by decide)]

end Text

end Rehearsal
