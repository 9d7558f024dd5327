/-
  Rehearsal.Text.Template
  ──────────────────────────────────────
  **Placeholders `{name}` and their values.**

  `fill` replaces every bound placeholder in one pass from left to right, so a
  value that itself looks like a placeholder stays as it is.  At an opening
  brace the name reaches to the next closing brace; if that name is not bound
  the brace stands for itself and the scan goes on right after it.
-/
import Rehearsal.Text.Chars

namespace Rehearsal

/-- The values of the placeholders, the first one of a name counts. -/
abbrev Bindings := List (Text × Text)

namespace Bindings

/-- The value of the first binding of `name`. -/
def value? (name : Text) : Bindings → Option Text
  | [] => none
  | (key, value) :: rest => if key = name then some value else value? name rest

end Bindings

namespace Text

/-- The text up to the next closing brace and the text after it. -/
def untilBrace : Text → Option (Text × Text)
  | [] => none
  | c :: t =>
      if c = '}' then some ([], t)
      else (untilBrace t).map fun (name, rest) => (c :: name, rest)

theorem length_of_untilBrace {t name rest : Text} (h : untilBrace t = some (name, rest)) :
    rest.length < t.length := by
  induction t generalizing name rest with
  | nil => simp [untilBrace] at h
  | cons c t ih =>
    unfold untilBrace at h
    split at h
    · obtain ⟨rfl, rfl⟩ := by simpa using h
      simp
    · cases ht : untilBrace t with
      | none => simp [ht] at h
      | some p =>
        obtain ⟨n, r⟩ := p
        simp only [ht, Option.map_some, Option.some.injEq, Prod.mk.injEq] at h
        have := ih ht
        simp only [List.length_cons, ← h.2]
        omega

/-- The value of the placeholder whose name starts `t`, and the text after it. -/
def placeholder? (bindings : Bindings) (t : Text) : Option (Text × Text) :=
  match untilBrace t with
  | none => none
  | some (name, rest) => (bindings.value? name).map fun value => (value, rest)

theorem length_of_placeholder? {b : Bindings} {t value rest : Text}
    (h : placeholder? b t = some (value, rest)) : rest.length < t.length := by
  unfold placeholder? at h
  split at h
  · simp at h
  · rename_i name r hu
    cases hv : b.value? name with
    | none => simp [hv] at h
    | some v =>
      simp only [hv, Option.map_some, Option.some.injEq, Prod.mk.injEq] at h
      exact h.2 ▸ length_of_untilBrace hu

/-- Replaces every bound placeholder of `template` by its value. -/
def fill (bindings : Bindings) (template : Text) : Text :=
  match template with
  | [] => []
  | c :: t =>
      if c = '{' then
        match _h : placeholder? bindings t with
        | some (value, rest) => value ++ fill bindings rest
        | none => c :: fill bindings t
      else c :: fill bindings t
termination_by template.length
decreasing_by
  · have := length_of_placeholder? _h
    simp only [List.length_cons]; omega
  · simp
  · simp

end Text

end Rehearsal
