/-
  Rehearsal.Proofs.Listing
  ──────────────────────────────────────
  **What a manifest lists, and what is kept of it.**

  The tests that a document lists are read off its nodes: an item has one telling
  for every `example` and every `property` among its entries.  A reader keeps the
  first telling of each item and nothing else, so a manifest loses exactly what
  its items tell after that.

    • `kindOf?_keeps` — an item is what the first telling entry says,
    • `readItem_gives`, `readModule_gives` — what is kept, item by item, in order,
    • `parse_accounted` — every listed test of an accepted manifest is kept or lost,
    • `parse_drops_property` — an accepted manifest of which a property is lost.
-/
import Rehearsal.Manifest
import Rehearsal.Proofs.Readers

namespace Rehearsal

variable {α β γ : Type}

/-! ## §1. Tests. -/

/-- What can be tried once. -/
inductive Test where
  | interaction (expression : Text) (expected : List Text)
  | property (expression : Text)
  deriving DecidableEq, Repr

/-- The test that a step is. -/
def Step.test (s : Step) : Test := .interaction s.expression s.expected

/-- The tests that an item consists of. -/
def Item.tests : Item → List Test
  | .dialogue steps => steps.map Step.test
  | .law l => [.property l.expression]

theorem Item.length_tests : ∀ i : Item, i.tests.length = i.size
  | .dialogue _ => List.length_map Step.test
  | .law _ => rfl

/-- What belongs to the setup and what to each group, in order. -/
structure Outline (α : Type) where
  setup : List α
  groups : List (List α)
  deriving DecidableEq, Repr

namespace Outline

/-- The setup and the groups one after the other. -/
def all (o : Outline α) : List α := o.setup ++ o.groups.flatten

/-- Every member replaced by what it consists of. -/
def spread (f : α → List β) (o : Outline α) : Outline β where
  setup := o.setup.flatMap f
  groups := o.groups.map (·.flatMap f)

/-- Setup and groups correspond member by member. -/
structure Match (R : α → β → Prop) (o : Outline α) (p : Outline β) : Prop where
  setup : List.Forall₂ R o.setup p.setup
  groups : List.Forall₂ (List.Forall₂ R) o.groups p.groups

theorem all_spread (f : α → List β) (o : Outline α) : (o.spread f).all = o.all.flatMap f := by
  unfold all spread
  rw [List.flatMap_append, List.flatten_eq_flatMap, List.flatMap_map, List.flatten_eq_flatMap,
    List.flatMap_assoc]
  rfl

theorem spread_congr {f g : α → List β} {o : Outline α} (h : ∀ a ∈ o.all, f a = g a) :
    o.spread f = o.spread g := by
  have hsetup : ∀ a ∈ o.setup, f a = g a := fun a ha => h a (List.mem_append_left _ ha)
  have hgroups : ∀ group ∈ o.groups, ∀ a ∈ group, f a = g a := by
    intro group hgroup a ha
    exact h a (List.mem_append_right _ (List.mem_flatten.mpr ⟨group, hgroup, ha⟩))
  unfold spread
  rw [List.flatMap_congr hsetup,
    List.map_congr_left fun group hgroup => List.flatMap_congr (hgroups group hgroup)]

end Outline

theorem flatMap_eq_of_forall₂ {R : α → β → Prop} {f : α → List γ} {g : β → List γ}
    (hfg : ∀ a b, R a b → f a = g b) {as : List α} {bs : List β} (h : List.Forall₂ R as bs) :
    as.flatMap f = bs.flatMap g := by
  induction h with
  | nil => rfl
  | cons hab _ ih => rw [List.flatMap_cons, List.flatMap_cons, hfg _ _ hab, ih]

/-- What the relation says of the left side holds of every member there. -/
theorem forall_mem_of_forall₂ {R : α → β → Prop} {P : α → Prop} (hP : ∀ a b, R a b → P a)
    {as : List α} {bs : List β} (h : List.Forall₂ R as bs) : ∀ a ∈ as, P a :=
  ((List.forall₂_and_left as bs).mp (h.imp fun a b hab => ⟨hP a b hab, hab⟩)).1

namespace Outline.Match

variable {R : α → β → Prop} {o : Outline α} {p : Outline β}

theorem spread_eq {f : α → List γ} {g : β → List γ} (h : o.Match R p)
    (hfg : ∀ a b, R a b → f a = g b) : o.spread f = p.spread g := by
  have hgroups : o.groups.map (·.flatMap f) = p.groups.map (·.flatMap g) := by
    rw [← List.forall₂_eq_eq_eq, List.forall₂_map_left_iff, List.forall₂_map_right_iff]
    exact h.groups.imp fun _ _ hgroup => flatMap_eq_of_forall₂ hfg hgroup
  unfold spread
  rw [flatMap_eq_of_forall₂ hfg h.setup, hgroups]

theorem forall_mem_all {P : α → Prop} (h : o.Match R p) (hP : ∀ a b, R a b → P a) :
    ∀ a ∈ o.all, P a := by
  intro a ha
  rcases List.mem_append.mp ha with ha | ha
  · exact forall_mem_of_forall₂ hP h.setup a ha
  · obtain ⟨group, hgroup, ha⟩ := List.mem_flatten.mp ha
    have hgroups : ∀ group ∈ o.groups, ∀ a ∈ group, P a :=
      forall_mem_of_forall₂ (fun _ _ hmembers => forall_mem_of_forall₂ hP hmembers) h.groups
    exact hgroups group hgroup a ha

end Outline.Match

/-- The number of what is collected is the sum of the numbers. -/
theorem length_flatMap_eq_total {f : α → List β} {size : α → Nat}
    (h : ∀ a, (f a).length = size a) (as : List α) : (as.flatMap f).length = total size as := by
  induction as with
  | nil => rfl
  | cons a as ih => rw [List.flatMap_cons, List.length_append, h, ih, total]

namespace Suite

/-- The items of a suite. -/
def outline (s : Suite) : Outline Item where
  setup := s.setup.getD []
  groups := s.groups

/-- The tests of a suite. -/
def tests (s : Suite) : Outline Test := s.outline.spread Item.tests

theorem length_tests (s : Suite) : s.tests.all.length = s.size := by
  have hall : s.outline.all = (s.setup.toList ++ s.groups).flatten := by
    unfold Outline.all outline
    rw [List.flatten_append]
    cases s.setup with
    | none => rfl
    | some setup => rw [Option.toList_some, List.flatten_singleton, Option.getD_some]
  unfold tests
  rw [Outline.all_spread, hall, List.flatten_eq_flatMap, List.flatMap_assoc]
  exact length_flatMap_eq_total (fun g => length_flatMap_eq_total Item.length_tests g) _

end Suite

/-! ## §2. What a document lists. -/

namespace Yaml.Document

open Manifest

/-- The part of an entry that a key stands for. -/
def partOf? (doc : Document) (key : Node) : Option EntryField :=
  match doc.resolve key with
  | .scalar mark style t => (Value.ofScalar? mark.tag style t).bind entryField?
  | _ => none

/-- The part of an entry: under its name, or at its position. -/
def partAt? (doc : Document) (part : EntryField) (n : Node) : Option Node :=
  match doc.resolve n with
  | .mapping _ entries => (entries.find? fun e => doc.partOf? e.1 = some part).map (·.2)
  | .sequence _ [expression, expected, line] =>
      match part with
      | .expression => some expression
      | .expected => some expected
      | .line => some line
  | _ => none

/-- Expected output: the members of a list, or the lines of a text. -/
def linesAt (doc : Document) (n : Node) : List Text :=
  match doc.resolve n with
  | .sequence _ items => items.map doc.textAt
  | .scalar _ _ t => Text.lines t
  | _ => []

/-- The interaction that is listed in an example. -/
def interactionAt (doc : Document) (n : Node) : Test :=
  .interaction ((doc.partAt? .expression n).elim [] doc.textAt)
    ((doc.partAt? .expected n).elim [] doc.linesAt)

/-- The tests that an entry of an item tells, if it has one of the two names that
tell any. -/
def telling? (doc : Document) (e : Text × Node) : Option (List Test) :=
  if e.1 = ("example" : Text) then some ((doc.membersAt e.2).map doc.interactionAt)
  else if e.1 = ("property" : Text) then some [.property (doc.textAt e.2)]
  else none

/-- What the telling entries of an item tell, in order. -/
def tellings (doc : Document) (item : Node) : List (List Test) :=
  (doc.entriesAt item).filterMap doc.telling?

/-- The tests that are listed in an item. -/
def told (doc : Document) (item : Node) : List Test := (doc.tellings item).flatten

/-- The tests that the first telling entry lists. -/
def toldFirst (doc : Document) (item : Node) : List Test := (doc.tellings item).headD []

/-- The tests that are listed after that. -/
def toldLater (doc : Document) (item : Node) : List Test := (doc.tellings item).tail.flatten

/-- The items of a module. -/
def outlineAt (doc : Document) (n : Node) : Outline Node where
  setup := (doc.under "setup" n).flatMap doc.membersAt
  groups := ((doc.under "groups" n).flatMap doc.membersAt).map doc.membersAt

/-- The items of every module. -/
def outlines (doc : Document) : List (Outline Node) :=
  ((doc.under "modules" doc.root).flatMap doc.membersAt).map doc.outlineAt

/-- All items. -/
def items (doc : Document) : List Node := doc.outlines.flatMap Outline.all

theorem told_eq (doc : Document) (item : Node) :
    doc.told item = doc.toldFirst item ++ doc.toldLater item := by
  unfold told toldFirst toldLater
  cases doc.tellings item with
  | nil => rfl
  | cons first later => rfl

/-- An item loses nothing iff all that it tells is told first. -/
theorem toldFirst_eq_told_iff (doc : Document) (item : Node) :
    doc.toldFirst item = doc.told item ↔ doc.toldLater item = [] := by
  rw [told_eq, List.self_eq_append_right]

end Yaml.Document

/-! ## §3. What a value keeps of its node. -/

namespace Manifest

open Yaml Yaml.Reader

variable {doc : Document}

/-- The interaction that an entry is read as. -/
def Entry.test (e : Entry) : Test := .interaction e.expression e.expected

/-- The tests that an item is read as. -/
def Kind.tests : Kind → List Test
  | .example entries => entries.map Entry.test
  | .property expression => [.property expression]

theorem textAt_of_textOf? {n : Node} {v : Value} {t : Text} (h : StandsFor doc n v)
    (ht : textOf? v = some t) : doc.textAt n = t := by
  unfold textOf? at ht
  split at ht
  · obtain rfl := Option.some.inj ht
    cases h with
    | scalar hn hv =>
      have hwritten := ofScalar?_asWritten hv
      unfold Document.textAt
      rw [hn]
      exact hwritten.symm
  · cases ht

/-- What is read from each value belongs to the node of the value. -/
theorem forall₂_of_mapM {R : α → β → Prop} {f : β → Option γ} :
    ∀ {as : List α} {bs : List β} {cs : List γ}, List.Forall₂ R as bs → bs.mapM f = some cs →
      List.Forall₂ (fun a c => ∃ b, R a b ∧ f b = some c) as cs
  | [], _, cs, .nil, h => by
      rw [List.mapM_nil] at h
      obtain rfl := Option.some.inj h
      exact .nil
  | a :: as, _, cs, .cons (b := b) hab hrest, h => by
      rw [List.mapM_cons] at h
      obtain ⟨c, hc, h⟩ := Option.bind_eq_some_iff.mp h
      obtain ⟨rest, hrest', h⟩ := Option.bind_eq_some_iff.mp h
      obtain rfl := Option.some.inj h
      exact .cons ⟨b, hab, hc⟩ (forall₂_of_mapM hrest hrest')

theorem map_textAt_eq {items : List Node} {vs : List Value} {ts : List Text}
    (h : List.Forall₂ (StandsFor doc) items vs) (hts : vs.mapM textOf? = some ts) :
    items.map doc.textAt = ts := by
  rw [← List.forall₂_eq_eq_eq, List.forall₂_map_left_iff]
  refine (forall₂_of_mapM h hts).imp fun n t ht => ?_
  obtain ⟨v, hv, ht⟩ := ht
  exact textAt_of_textOf? hv ht

theorem linesAt_of_expectedOf? {n : Node} {v : Value} {ts : List Text} (h : StandsFor doc n v)
    (hts : expectedOf? v = some ts) : doc.linesAt n = ts := by
  unfold Document.linesAt
  cases h with
  | scalar hn hv =>
    rw [hn]
    have hwritten := ofScalar?_asWritten hv
    unfold expectedOf? at hts
    split at hts
    · exact absurd hwritten id
    · obtain rfl := hwritten
      exact Option.some.inj hts
    · cases hts
  | list hn hvs =>
    rw [hn]
    exact map_textAt_eq hvs hts
  | map hn hkeys hvalues => cases hts

theorem partOf?_of_entryField? {key : Node} {v : Value} {part : EntryField}
    (h : StandsFor doc key v) (hpart : entryField? v = some part) :
    doc.partOf? key = some part := by
  cases h with
  | scalar hn hv =>
    unfold Document.partOf?
    rw [hn]
    exact (congrArg (·.bind entryField?) hv).trans hpart
  | list hn hvs => cases hpart
  | map hn hkeys hvalues => cases hpart

/-- Looking up a part among the values that were read finds the value of the node
that the part has in the mapping. -/
theorem lookup_part (part : EntryField) : ∀ {entries : List (Node × Node)}
    {vs : List (Value × Value)} {fields : List (EntryField × Value)},
    List.Forall₂ (fun e v => StandsFor doc e.1 v.1) entries vs →
    List.Forall₂ (fun e v => StandsFor doc e.2 v.2) entries vs →
    (vs.mapM fun v => do return (← entryField? v.1, v.2)) = some fields →
    Option.Rel (StandsFor doc)
      ((entries.find? fun e => doc.partOf? e.1 = some part).map (·.2)) (fields.lookup part)
  | [], _, fields, .nil, .nil, h => by
      rw [List.mapM_nil] at h
      obtain rfl := Option.some.inj h
      exact .none
  | e :: entries, _, fields, .cons (b := v) hkey hkeys, .cons hvalue hvalues, h => by
      rw [List.mapM_cons] at h
      obtain ⟨field, hfield, h⟩ := Option.bind_eq_some_iff.mp h
      obtain ⟨rest, hrest, h⟩ := Option.bind_eq_some_iff.mp h
      obtain rfl := Option.some.inj h
      obtain ⟨named, hnamed, hfield⟩ := Option.bind_eq_some_iff.mp hfield
      obtain rfl := Option.some.inj hfield
      have hpart := partOf?_of_entryField? hkey hnamed
      by_cases heq : named = part
      · subst heq
        simpa [hpart] using Option.Rel.some hvalue
      · have hne : (part == named) = false := by simpa using fun h => heq h.symm
        have ih := lookup_part part hkeys hvalues hrest
        simpa [hpart, heq, List.lookup_cons, hne] using ih

theorem entryOfFields?_eq_some {fields : List (EntryField × Value)} {e : Entry}
    (h : entryOfFields? fields = some e) :
    (fields.lookup .expression).bind textOf? = some e.expression
      ∧ ((fields.lookup .expected).map expectedOf?).getD (some []) = some e.expected := by
  unfold entryOfFields? at h
  split at h
  · cases h
  · obtain ⟨expression, hexpression, h⟩ := Option.bind_eq_some_iff.mp h
    obtain ⟨expected, hexpected, h⟩ := Option.bind_eq_some_iff.mp h
    obtain ⟨line, -, h⟩ := Option.bind_eq_some_iff.mp h
    obtain rfl := Option.some.inj h
    exact ⟨hexpression, hexpected⟩

theorem elim_textAt {o : Option Node} {v : Option Value} {t : Text}
    (h : Option.Rel (StandsFor doc) o v) (ht : v.bind textOf? = some t) :
    o.elim [] doc.textAt = t := by
  cases h with
  | none => cases ht
  | some hstands => exact textAt_of_textOf? hstands ht

theorem elim_linesAt {o : Option Node} {v : Option Value} {ts : List Text}
    (h : Option.Rel (StandsFor doc) o v) (hts : (v.map expectedOf?).getD (some []) = some ts) :
    o.elim [] doc.linesAt = ts := by
  cases h with
  | none => exact Option.some.inj hts
  | some hstands => exact linesAt_of_expectedOf? hstands hts

/-- An interaction is read from its two parts; expected output may be missing. -/
theorem interactionAt_of_parts {n : Node} {v w : Option Value} {e : Entry}
    (hv : Option.Rel (StandsFor doc) (doc.partAt? .expression n) v)
    (hw : Option.Rel (StandsFor doc) (doc.partAt? .expected n) w)
    (hexpression : v.bind textOf? = some e.expression)
    (hexpected : (w.map expectedOf?).getD (some []) = some e.expected) :
    doc.interactionAt n = e.test := by
  unfold Document.interactionAt Entry.test
  rw [elim_textAt hv hexpression, elim_linesAt hw hexpected]

theorem interactionAt_of_entryOf? {n : Node} {v : Value} {e : Entry} (h : StandsFor doc n v)
    (he : entryOf? v = some e) : doc.interactionAt n = e.test := by
  cases h with
  | scalar hn hv =>
    have hwritten := ofScalar?_asWritten hv
    unfold entryOf? at he
    split at he
    · exact absurd hwritten id
    · exact absurd hwritten id
    · cases he
  | list hn hvs =>
    unfold entryOf? at he
    split at he
    · rename_i heq
      cases heq
    · rename_i expression expected line heq
      obtain rfl := Value.list.inj heq
      obtain ⟨x, _, hx, htwo, rfl⟩ := List.forall₂_cons_right_iff.mp hvs
      obtain ⟨y, _, hy, hone, rfl⟩ := List.forall₂_cons_right_iff.mp htwo
      obtain ⟨z, _, -, hnil, rfl⟩ := List.forall₂_cons_right_iff.mp hone
      obtain rfl := List.forall₂_nil_right_iff.mp hnil
      obtain ⟨t, ht, he⟩ := Option.bind_eq_some_iff.mp he
      obtain ⟨ts, hts, he⟩ := Option.bind_eq_some_iff.mp he
      obtain ⟨number, -, he⟩ := Option.bind_eq_some_iff.mp he
      obtain rfl := Option.some.inj he
      have hpart (part : EntryField) : doc.partAt? part n
          = match part with
            | .expression => some x
            | .expected => some y
            | .line => some z := by
        unfold Document.partAt?
        rw [hn]
      refine interactionAt_of_parts (v := some expression) (w := some expected) ?_ ?_ ht hts
      · rw [hpart]
        exact .some hx
      · rw [hpart]
        exact .some hy
    · cases he
  | map hn hkeys hvalues =>
    obtain ⟨fields, hfields, he⟩ := Option.bind_eq_some_iff.mp he
    obtain ⟨hexpression, hexpected⟩ := entryOfFields?_eq_some he
    have hpart (part : EntryField) :
        Option.Rel (StandsFor doc) (doc.partAt? part n) (fields.lookup part) := by
      unfold Document.partAt?
      rw [hn]
      exact lookup_part part hkeys hvalues hfields
    exact interactionAt_of_parts (hpart .expression) (hpart .expected) hexpression hexpected

theorem map_interactionAt_eq {n : Node} {v : Value} {es : List Entry} (h : StandsFor doc n v)
    (hes : entriesOf? v = some es) :
    (doc.membersAt n).map doc.interactionAt = es.map Entry.test := by
  unfold Document.membersAt
  cases h with
  | scalar hn hv =>
    have hwritten := ofScalar?_asWritten hv
    unfold entriesOf? at hes
    split at hes
    · exact absurd hwritten id
    · cases hes
  | list hn hvs =>
    rw [hn, ← List.forall₂_eq_eq_eq, List.forall₂_map_left_iff, List.forall₂_map_right_iff]
    refine (forall₂_of_mapM hvs hes).imp fun m e he => ?_
    obtain ⟨v, hv, he⟩ := he
    exact interactionAt_of_entryOf? hv he
  | map hn hkeys hvalues => cases hes

/-- The first telling entry says what an item is, whatever stands after it. -/
theorem kindOf?_keeps {kind : Kind} : ∀ {entries : List (Text × Node)}
    {values : List (Text × Value)},
    List.Forall₂ (fun e v => v.1 = e.1 ∧ StandsFor doc e.2 v.2) entries values →
    kindOf? values = some kind →
    ∃ later, entries.filterMap doc.telling? = kind.tests :: later
  | [], _, .nil, h => by cases h
  | (key, n) :: entries, (_, v) :: values, .cons ⟨rfl, hv⟩ hrest, h => by
      unfold kindOf? at h
      by_cases hexample : key = ("example" : Text)
      · rw [if_pos hexample] at h
        obtain ⟨es, hes, rfl⟩ := Option.map_eq_some_iff.mp h
        have htelling : doc.telling? (key, n) = some (Kind.example es).tests := by
          unfold Document.telling?
          rw [if_pos hexample, map_interactionAt_eq hv hes]
          rfl
        exact ⟨_, List.filterMap_cons_some htelling⟩
      · rw [if_neg hexample] at h
        by_cases hproperty : key = ("property" : Text)
        · rw [if_pos hproperty] at h
          obtain ⟨t, ht, rfl⟩ := Option.map_eq_some_iff.mp h
          have htelling : doc.telling? (key, n) = some (Kind.property t).tests := by
            unfold Document.telling?
            rw [if_neg hexample, if_pos hproperty, textAt_of_textOf? hv ht]
            rfl
          exact ⟨_, List.filterMap_cons_some htelling⟩
        -- Any other name tells nothing, on either side.
        · rw [if_neg hproperty] at h
          have htelling : doc.telling? (key, n) = none := by
            unfold Document.telling?
            rw [if_neg hexample, if_neg hproperty]
          rw [List.filterMap_cons_none htelling]
          exact kindOf?_keeps hrest h

/-! ## §4. What a reader keeps of a document. -/

/-- A line is told by no entry. -/
theorem filterMap_telling?_filter (entries : List (Text × Node)) :
    (entries.filter fun e => e.1 ≠ ("line" : Text)).filterMap doc.telling?
      = entries.filterMap doc.telling? := by
  rw [List.filterMap_filter]
  refine List.filterMap_congr fun e _ => ?_
  by_cases hline : e.1 = ("line" : Text)
  · have htelling : doc.telling? e = none := by
      unfold Document.telling?
      rw [hline, if_neg (by decide), if_neg (by decide)]
    rw [htelling, ite_self]
  · rw [if_pos (decide_eq_true hline)]

/-- What is kept of an item is what it tells first. -/
def Keeps (doc : Document) (item : Node) (i : WrittenItem) : Prop :=
  ∃ later, doc.tellings item = i.kind.tests :: later

theorem Keeps.toldFirst_eq {item : Node} {i : WrittenItem} (h : Keeps doc item i) :
    doc.toldFirst item = i.kind.tests := by
  obtain ⟨later, hlater⟩ := h
  unfold Document.toldFirst
  rw [hlater]
  rfl

theorem Keeps.tellings_ne_nil {item : Node} {i : WrittenItem} (h : Keeps doc item i) :
    doc.tellings item ≠ [] := by
  obtain ⟨later, hlater⟩ := h
  rw [hlater]
  exact List.cons_ne_nil _ _

theorem readItem_gives {depth : Nat} {n : Node} {i : WrittenItem}
    (h : Gives doc (readItem depth n) i) : Keeps doc n i := by
  obtain ⟨f, hf, h⟩ := h.bind
  have hentries := fields_gives hf
  -- A second line is refused here, a second telling entry is not.
  split at h
  · obtain ⟨_, hfail, -⟩ := h.bind
    exact absurd hfail not_gives_failure
  · obtain ⟨line, -, h⟩ := h.bind
    obtain ⟨values, hvalues, h⟩ := h.bind
    split at h
    · rename_i kind hkind
      obtain rfl := gives_pure_iff.mp h
      have hall : List.Forall₂ (fun e v => v.1 = e.1 ∧ StandsFor doc e.2 v.2)
          (f.entries.filter fun e => e.1 ≠ ("line" : Text)) values := by
        refine hvalues.mapM.imp fun e v hv => ?_
        obtain ⟨value, hvalue, hv⟩ := hv.bind
        obtain rfl := gives_pure_iff.mp hv
        exact ⟨rfl, value_gives hvalue⟩
      unfold Keeps Document.tellings
      rw [← hentries, ← filterMap_telling?_filter]
      exact kindOf?_keeps hall hkind
    · exact absurd h not_gives_failure

theorem readItems_gives {depth : Nat} {n : Node} {is : List WrittenItem}
    (h : Gives doc (list readItem depth n) is) :
    List.Forall₂ (Keeps doc) (doc.membersAt n) is := by
  obtain ⟨depth', hall⟩ := list_gives h
  exact hall.imp fun _ _ => readItem_gives

theorem readSetup_gives (hdoc : doc.Grounded) {depth : Nat} {n : Node}
    {is : Option (List WrittenItem)} (h : Gives doc (optional (list readItem) depth n) is) :
    List.Forall₂ (Keeps doc) (doc.membersAt n) (is.getD []) := by
  rcases optional_gives h with ⟨rfl, mark, t, hscalar⟩ | ⟨is, rfl, his⟩
  · rw [Document.membersAt_of_scalar hscalar]
    exact .nil
  · have hall := readItems_gives his
    rw [hdoc.membersAt_resolve] at hall
    exact hall

theorem readGroups_gives {depth : Nat} {n : Node} {groups : List (List WrittenItem)}
    (h : Gives doc (list (list readItem) depth n) groups) :
    List.Forall₂ (List.Forall₂ (Keeps doc)) ((doc.membersAt n).map doc.membersAt) groups := by
  obtain ⟨depth', hall⟩ := list_gives h
  rw [List.forall₂_map_left_iff]
  exact hall.imp fun _ _ => readItems_gives

/-- The items of a module as they are written. -/
def WrittenModule.outline (m : WrittenModule) : Outline WrittenItem where
  setup := m.setup.getD []
  groups := m.groups

/-- What is kept of a module is what its items tell first, in order. -/
theorem readModule_gives (hdoc : doc.Grounded) {depth : Nat} {n : Node} {m : WrittenModule}
    (h : Gives doc (readModule depth n) m) :
    (doc.outlineAt n).Match (Keeps doc) m.outline := by
  obtain ⟨f, hf, h⟩ := h.bind
  have hentries := fields_gives hf
  obtain ⟨_, hclosed, h⟩ := h.bind
  have hcount := Fields.closed_gives hclosed
  obtain ⟨name, -, h⟩ := h.bind
  split at h
  · exact absurd h not_gives_failure
  · obtain ⟨path, -, h⟩ := h.bind
    obtain ⟨setup, hsetup, h⟩ := h.bind
    obtain ⟨groups, hgroups, h⟩ := h.bind
    obtain rfl := gives_pure_iff.mp h
    refine ⟨?_, ?_⟩
    · show List.Forall₂ _ ((doc.under "setup" n).flatMap doc.membersAt) (setup.getD [])
      rw [under_eq_of_count hentries (hcount _ (by decide))]
      rcases Fields.getD_gives hsetup with ⟨rfl, hnone⟩ | ⟨node, hnode, hsetup⟩
      · rw [hnone]
        exact .nil
      · rw [hnode, Option.toList_some, List.flatMap_singleton]
        exact readSetup_gives hdoc hsetup
    · show List.Forall₂ _ (((doc.under "groups" n).flatMap doc.membersAt).map doc.membersAt) groups
      rw [under_eq_of_count hentries (hcount _ (by decide))]
      rcases Fields.getD_gives hgroups with ⟨rfl, hnone⟩ | ⟨node, hnode, hgroups⟩
      · rw [hnone]
        exact .nil
      · rw [hnode, Option.toList_some, List.flatMap_singleton]
        exact readGroups_gives hgroups

theorem reader_gives (hdoc : doc.Grounded) {depth : Nat} {ms : List WrittenModule}
    (h : Gives doc (reader depth doc.root) ms) :
    List.Forall₂ (Outline.Match (Keeps doc)) doc.outlines (ms.map WrittenModule.outline) := by
  obtain ⟨f, hf, h⟩ := h.bind
  have hentries := fields_gives hf
  obtain ⟨_, hclosed, h⟩ := h.bind
  have hcount := Fields.closed_gives hclosed
  unfold Document.outlines
  rw [under_eq_of_count hentries (hcount _ (by decide)), List.forall₂_map_left_iff,
    List.forall₂_map_right_iff]
  rcases Fields.getD_gives h with ⟨rfl, hnone⟩ | ⟨node, hnode, hms⟩
  · rw [hnone]
    exact .nil
  · rw [hnode, Option.toList_some, List.flatMap_singleton]
    obtain ⟨depth', hall⟩ := list_gives hms
    exact hall.imp fun _ _ => readModule_gives hdoc

/-! ## §5. The account of a manifest. -/

theorem WrittenModule.tests_item (m : WrittenModule) (i : WrittenItem) :
    (m.item i).tests = i.kind.tests := by
  unfold item
  split
  · rename_i expression hkind
    rw [hkind]
    rfl
  · rename_i entries hkind
    rw [hkind]
    exact List.map_map

theorem WrittenModule.tests_suite (m : WrittenModule) :
    m.suite.tests = m.outline.spread fun i => i.kind.tests := by
  have hitems (is : List WrittenItem) :
      (is.map m.item).flatMap Item.tests = is.flatMap fun i => i.kind.tests := by
    rw [List.flatMap_map]
    exact List.flatMap_congr fun i _ => m.tests_item i
  have hgroups : (m.groups.map (·.map m.item)).map (·.flatMap Item.tests)
      = m.groups.map (·.flatMap fun i => i.kind.tests) := by
    rw [List.map_map]
    exact List.map_congr_left fun is _ => hitems is
  have hsetup : ((m.setup.map (·.map m.item)).getD []).flatMap Item.tests
      = (m.setup.getD []).flatMap fun i => i.kind.tests := by
    cases m.setup with
    | none => rfl
    | some is => exact hitems is
  unfold Suite.tests Outline.spread Suite.outline suite outline
  rw [hgroups, hsetup]

/-- The tests of a document by module, setup and group; `f` says what is listed in
an item. -/
def listing (doc : Document) (f : Node → List Test) : List (Outline Test) :=
  doc.outlines.map (·.spread f)

theorem flatMap_all_listing (doc : Document) (f : Node → List Test) :
    (listing doc f).flatMap Outline.all = doc.items.flatMap f := by
  unfold listing Document.items
  rw [List.flatMap_map, List.flatMap_assoc]
  exact List.flatMap_congr fun o _ => o.all_spread f

theorem countExamples_eq (suites : List Suite) :
    countExamples suites = ((suites.map Suite.tests).flatMap Outline.all).length := by
  rw [List.flatMap_map]
  exact (length_flatMap_eq_total Suite.length_tests suites).symm

/-- The tests that are listed in the items of a document behind their first telling
entries. -/
def lost (doc : Document) : List Test := doc.items.flatMap doc.toldLater

theorem length_told (doc : Document) :
    (doc.items.flatMap doc.toldFirst).length + (lost doc).length
      = (doc.items.flatMap doc.told).length := by
  unfold lost
  induction doc.items with
  | nil => rfl
  | cons item items ih =>
    simp only [List.flatMap_cons, List.length_append, doc.told_eq item]
    omega

/-- The first telling entries list everything iff nothing is listed after them. -/
theorem listing_eq_iff (doc : Document) :
    listing doc doc.toldFirst = listing doc doc.told ↔ lost doc = [] := by
  constructor
  · intro h
    have hall := congrArg (fun l => (l.flatMap Outline.all).length) h
    simp only [flatMap_all_listing] at hall
    have hlength := length_told doc
    exact List.eq_nil_of_length_eq_zero (by omega)
  · intro h
    have hnone : ∀ item ∈ doc.items, doc.toldLater item = [] := List.flatMap_eq_nil_iff.mp h
    refine List.map_congr_left fun o ho => Outline.spread_congr fun item hitem => ?_
    rw [doc.toldFirst_eq_told_iff]
    exact hnone item (List.mem_flatMap.mpr ⟨o, ho, hitem⟩)

theorem parse_eq_ok {path text : Text} {ms : List WrittenModule}
    (h : read? reader text = some ms) : parse path text = .ok (ms.map WrittenModule.suite) := by
  unfold parse
  rw [h]

/-- The text of a manifest is malformed, or it is a document in which every item
tells something.  What every item tells first is kept, in order within each module,
setup and group, so all that is listed is kept iff nothing is listed after that;
what is kept and what is lost add up to what is listed. -/
theorem parse_accounted (path text : Text) :
    parse path text = .error (.malformed path)
      ∨ ∃ suites doc, parse path text = .ok suites ∧ Document.ofText? text = some doc
        ∧ (∀ item ∈ doc.items, doc.tellings item ≠ [])
        ∧ suites.map Suite.tests = listing doc doc.toldFirst
        ∧ (suites.map Suite.tests = listing doc doc.told ↔ lost doc = [])
        ∧ countExamples suites + (lost doc).length = (doc.items.flatMap doc.told).length := by
  cases hread : read? reader text with
  | none =>
    left
    unfold parse
    rw [hread]
  | some ms =>
    right
    obtain ⟨doc, hdoc, hgrounded, hgives⟩ := read?_eq_some hread
    have hall := reader_gives hgrounded hgives
    have htells : ∀ item ∈ doc.items, doc.tellings item ≠ [] := by
      have houtlines : ∀ o ∈ doc.outlines, ∀ item ∈ o.all, doc.tellings item ≠ [] :=
        forall_mem_of_forall₂
          (fun o m hm => hm.forall_mem_all fun item i hi => hi.tellings_ne_nil) hall
      intro item hitem
      obtain ⟨o, ho, hitem⟩ := List.mem_flatMap.mp hitem
      exact houtlines o ho item hitem
    have hkept : (ms.map WrittenModule.suite).map Suite.tests = listing doc doc.toldFirst := by
      unfold listing
      rw [List.map_map, eq_comm, ← List.forall₂_eq_eq_eq, List.forall₂_map_left_iff,
        List.forall₂_map_right_iff]
      refine (List.forall₂_map_right_iff.mp hall).imp fun o m hm => ?_
      exact (hm.spread_eq fun item i hi => hi.toldFirst_eq).trans m.tests_suite.symm
    refine ⟨_, doc, parse_eq_ok hread, hdoc, htells, hkept, ?_, ?_⟩
    · rw [hkept]
      exact listing_eq_iff doc
    · rw [countExamples_eq, hkept, flatMap_all_listing]
      exact length_told doc

/-- A setup with a property, and a group with an example. -/
def singleItems : Text :=
  "modules:\n- name: M\n  setup: [property: p]\n  groups: [[example: [expression: x]]]\n"

/-- Every item tells one thing, so both tests are kept. -/
theorem parse_accounted_sample :
    ∃ suites doc, parse "m.yaml" singleItems = .ok suites ∧ Document.ofText? singleItems = some doc
      ∧ doc.items.flatMap doc.told = [.property "p", .interaction "x" []]
      ∧ suites.map Suite.tests = listing doc doc.told ∧ countExamples suites = 2 := by
  have hread : (read? reader singleItems).isSome = true := by decide +kernel
  have htold : (Document.ofText? singleItems).map
        (fun doc => (doc.items.flatMap doc.told, lost doc))
      = some ([.property "p", .interaction "x" []], []) := by
    decide +kernel
  obtain ⟨ms, hms⟩ := Option.isSome_iff_exists.mp hread
  rcases parse_accounted "m.yaml" singleItems with
    herror | ⟨suites, doc, hparse, hdoc, -, -, hkept, hcount⟩
  · rw [parse_eq_ok hms] at herror
    cases herror
  · rw [hdoc] at htold
    obtain ⟨htold, hlost⟩ := Prod.mk.inj (Option.some.inj htold)
    rw [hlost, htold] at hcount
    exact ⟨suites, doc, hparse, hdoc, htold, hkept.mpr hlost, hcount⟩

/-- An item with an example and a property. -/
def doubleItem : Text :=
  "modules:\n- name: M\n  groups:\n  - - example:\n      - expression: x\n      property: p\n"

/-- The manifest is accepted, and the property of its item is never tried. -/
theorem parse_drops_property :
    ¬ ∀ (path text : Text) (suites : List Suite) (doc : Document),
        parse path text = .ok suites → Document.ofText? text = some doc →
        suites.map Suite.tests = listing doc doc.told
          ∧ countExamples suites = (doc.items.flatMap doc.told).length := by
  intro hkept
  have hread : read? reader doubleItem
      = some [⟨"M", none, none, [[⟨none, .example [⟨"x", [], none⟩]⟩]]⟩] := by
    decide +kernel
  have htold : (Document.ofText? doubleItem).map (fun doc => doc.items.flatMap doc.told)
      = some [.interaction "x" [], .property "p"] := by
    decide +kernel
  obtain ⟨doc, hdoc, htold⟩ := Option.map_eq_some_iff.mp htold
  have hcount := (hkept "m.yaml" doubleItem _ doc (parse_eq_ok hread) hdoc).2
  rw [htold] at hcount
  exact absurd hcount (by decide)

end Manifest

end Rehearsal
