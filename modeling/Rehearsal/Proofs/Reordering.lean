/-
  Rehearsal.Proofs.Reordering
  ──────────────────────────────────────
  **The order in which directories list their entries.**

  A tree is `Reordered` if its directories, at any depth, list the same entries in
  another order.  As no two entries of a directory have the same name, a name is
  found again wherever it is listed; so a path leads to the same file, and a
  directory holds the same files.

    • `Reordered.exists_lookup` — a name is found again,
    • `Leads.of_akin` — the same files lie below a directory,
    • `find?_reordered` — a path leads to the same.
-/
import Mathlib.Data.List.Forall2
import Rehearsal.Proofs.Paths

namespace Rehearsal

namespace FileTree

/-! ## §1. Entries in another order. -/

/-- The same entries in another order, in this directory and in all below it. -/
inductive Reordered : Entries → Entries → Prop
  | nil : Reordered [] []
  | entry (name : Text) (tree : FileTree) {a b : Entries} (h : Reordered a b) :
      Reordered ((name, tree) :: a) ((name, tree) :: b)
  | directory (name : Text) {inner inner' a b : Entries} (hinner : Reordered inner inner')
      (h : Reordered a b) :
      Reordered ((name, .directory inner) :: a) ((name, .directory inner') :: b)
  | swap (first second : Text × FileTree) (a : Entries) :
      Reordered (first :: second :: a) (second :: first :: a)
  | trans {a b c : Entries} (h : Reordered a b) (h' : Reordered b c) : Reordered a c

/-- The same tree, up to the order of entries. -/
inductive Akin : FileTree → FileTree → Prop
  | refl (tree : FileTree) : Akin tree tree
  | directory {a b : Entries} (h : Reordered a b) : Akin (.directory a) (.directory b)

theorem Akin.trans {a b c : FileTree} (h : Akin a b) (h' : Akin b c) : Akin a c := by
  cases h with
  | refl => exact h'
  | directory h =>
    cases h' with
    | refl => exact .directory h
    | directory h' => exact .directory (h.trans h')

namespace Reordered

variable {a b : Entries}

theorem refl : ∀ a : Entries, Reordered a a
  | [] => .nil
  | (name, tree) :: a => .entry name tree (refl a)

theorem symm (h : Reordered a b) : Reordered b a := by
  induction h with
  | nil => exact .nil
  | entry name tree _ ih => exact .entry name tree ih
  | directory name _ _ ihinner ih => exact .directory name ihinner ih
  | swap first second a => exact .swap second first a
  | trans _ _ ih ih' => exact ih'.trans ih

/-- The names are the same. -/
theorem names_perm (h : Reordered a b) : (a.map Prod.fst).Perm (b.map Prod.fst) := by
  induction h with
  | nil => exact .nil
  | entry name _ _ ih => exact ih.cons name
  | directory name _ _ _ ih => exact ih.cons name
  | swap first second a => exact .swap _ _ _
  | trans _ _ ih ih' => exact ih.trans ih'

/-- Every entry is still there. -/
theorem exists_mem (h : Reordered a b) {name : Text} {tree : FileTree} (hmem : (name, tree) ∈ a) :
    ∃ tree', (name, tree') ∈ b ∧ Akin tree tree' := by
  induction h generalizing tree with
  | nil => exact absurd hmem List.not_mem_nil
  | entry key first _ ih =>
    rcases List.mem_cons.mp hmem with heq | hmem
    · exact ⟨tree, heq ▸ List.mem_cons_self .., .refl tree⟩
    · obtain ⟨tree', hmem', hakin⟩ := ih hmem
      exact ⟨tree', List.mem_cons_of_mem _ hmem', hakin⟩
  | directory key hinner _ _ ih =>
    rcases List.mem_cons.mp hmem with heq | hmem
    · obtain ⟨rfl, rfl⟩ := Prod.mk.inj heq
      exact ⟨_, List.mem_cons_self .., .directory hinner⟩
    · obtain ⟨tree', hmem', hakin⟩ := ih hmem
      exact ⟨tree', List.mem_cons_of_mem _ hmem', hakin⟩
  | swap first second a =>
    exact ⟨tree, (List.Perm.swap second first a).mem_iff.mp hmem, .refl tree⟩
  | trans _ _ ih ih' =>
    obtain ⟨mid, hmid, hakin⟩ := ih hmem
    obtain ⟨tree', hmem', hakin'⟩ := ih' hmid
    exact ⟨tree', hmem', hakin.trans hakin'⟩

/-- A sound directory stays sound. -/
theorem sound (h : Reordered a b) (hsound : Sound (.directory a)) : Sound (.directory b) := by
  induction h with
  | nil => exact hsound
  | entry name tree h ih =>
    obtain ⟨hnew, hname, htree, hrest⟩ := sound_cons_iff.mp hsound
    exact sound_cons_iff.mpr
      ⟨fun hmem => hnew (h.names_perm.mem_iff.mpr hmem), hname, htree, ih hrest⟩
  | directory name hinner h ihinner ih =>
    obtain ⟨hnew, hname, htree, hrest⟩ := sound_cons_iff.mp hsound
    exact sound_cons_iff.mpr
      ⟨fun hmem => hnew (h.names_perm.mem_iff.mpr hmem), hname, ihinner htree, ih hrest⟩
  | swap first second a =>
    cases hsound with
    | directory hdistinct hnames hbelow =>
      have hperm : (first :: second :: a).Perm (second :: first :: a) := .swap second first a
      exact .directory ((hperm.map Prod.fst).nodup_iff.mp hdistinct)
        (fun entry hentry => hnames entry (hperm.mem_iff.mpr hentry))
        (fun entry hentry => hbelow entry (hperm.mem_iff.mpr hentry))
  | trans _ _ ih ih' => exact ih' (ih hsound)

/-- A name that is found is found again. -/
theorem exists_lookup (h : Reordered a b) (hsound : Sound (.directory a)) {name : Text}
    {tree : FileTree} (hlookup : a.lookup name = some tree) :
    ∃ tree', b.lookup name = some tree' ∧ Akin tree tree' := by
  obtain ⟨tree', hmem, hakin⟩ := h.exists_mem (hsound.lookup_eq_some_iff.mp hlookup)
  exact ⟨tree', (h.sound hsound).lookup_eq_some_iff.mpr hmem, hakin⟩

end Reordered

/-! ## §2. What lies below, and where paths lead. -/

/-- A file lies at the same place in a tree that is the same up to order. -/
theorem Leads.of_akin {tree tree' : FileTree} {names : List Text} {contents : Bytes}
    (h : Leads tree names (.file contents)) (hakin : Akin tree tree') :
    Leads tree' names (.file contents) := by
  induction names generalizing tree tree' with
  | nil =>
    cases h with
    | here =>
      cases hakin with
      | refl => exact .here _
  | cons name names ih =>
    cases hakin with
    | refl => exact h
    | directory hsame =>
      obtain ⟨_, inner, _, heq, hmem, hleads⟩ := leads_directory_iff.mp h
      obtain ⟨rfl, rfl⟩ := List.cons.inj heq
      obtain ⟨inner', hmem', hakin⟩ := hsame.exists_mem hmem
      exact .inside hmem' (ih hleads hakin)

/-- **A path does not see the order of entries.** -/
theorem Walks.of_reordered {links : Nat} {inside inside' : List Entries} {path : List Text}
    {there : FileTree} (h : Walks links inside path there)
    (hsame : List.Forall₂ Reordered inside inside')
    (hsound : ∀ entries ∈ inside, Sound (.directory entries)) :
    ∃ there', Walks links inside' path there' ∧ Akin there there' := by
  induction h generalizing inside' with
  | done =>
    obtain ⟨entries', outer', hfirst, -, rfl⟩ := List.forall₂_cons_left_iff.mp hsame
    exact ⟨_, .done, .directory hfirst⟩
  | stay hname _ ih =>
    obtain ⟨there', hwalks, hakin⟩ := ih hsame hsound
    exact ⟨there', .stay hname hwalks, hakin⟩
  | up _ ih =>
    obtain ⟨entries', outer', -, houter, rfl⟩ := List.forall₂_cons_left_iff.mp hsame
    obtain ⟨there', hwalks, hakin⟩ := ih houter (List.forall_mem_cons.mp hsound).2
    obtain ⟨parent', outer', -, -, rfl⟩ := List.forall₂_cons_left_iff.mp houter
    exact ⟨there', .up hwalks, hakin⟩
  | file hname hlookup =>
    obtain ⟨entries', outer', hfirst, -, rfl⟩ := List.forall₂_cons_left_iff.mp hsame
    obtain ⟨tree', hlookup', hakin⟩ :=
      hfirst.exists_lookup (hsound _ (List.mem_cons_self ..)) hlookup
    cases hakin with
    | refl => exact ⟨_, .file hname hlookup', .refl _⟩
  | @enter _ entries below outer _ _ _ hname hlookup _ ih =>
    obtain ⟨entries', outer', hfirst, -, rfl⟩ := List.forall₂_cons_left_iff.mp hsame
    have hentries := hsound _ (List.mem_cons_self ..)
    obtain ⟨tree', hlookup', hakin⟩ := hfirst.exists_lookup hentries hlookup
    have hinner := (hentries.of_mem (hentries.lookup_eq_some_iff.mp hlookup)).2
    have hsound' : ∀ inner ∈ below :: entries :: outer, Sound (.directory inner) :=
      List.forall_mem_cons.mpr ⟨hinner, hsound⟩
    cases hakin with
    | refl =>
      obtain ⟨there', hwalks, hakin⟩ := ih (.cons (.refl _) hsame) hsound'
      exact ⟨there', .enter hname hlookup' hwalks, hakin⟩
    | directory hsame' =>
      obtain ⟨there', hwalks, hakin⟩ := ih (.cons hsame' hsame) hsound'
      exact ⟨there', .enter hname hlookup' hwalks, hakin⟩
  | follow hname hlookup htarget _ ih =>
    obtain ⟨there', hwalks, hakin⟩ := ih hsame hsound
    obtain ⟨entries', outer', hfirst, -, rfl⟩ := List.forall₂_cons_left_iff.mp hsame
    obtain ⟨tree', hlookup', hakin'⟩ :=
      hfirst.exists_lookup (hsound _ (List.mem_cons_self ..)) hlookup
    cases hakin' with
    | refl => exact ⟨there', .follow hname hlookup' htarget hwalks, hakin⟩

/-- What a path leads to is the same up to the order of entries. -/
theorem find?_reordered {tree tree' : Entries} (hsame : Reordered tree tree')
    (hsound : Sound (.directory tree)) {path : Text} {there : FileTree}
    (h : find? tree path = some there) :
    ∃ there', find? tree' path = some there' ∧ Akin there there' := by
  unfold find? at h ⊢
  split at h
  · exact absurd h (by simp)
  rename_i hguard
  rw [if_neg hguard]
  obtain ⟨there', hwalks, hakin⟩ := (walk_eq_some_iff.mp h).of_reordered
    (.cons hsame .nil) fun _ h => List.mem_singleton.mp h ▸ hsound
  exact ⟨there', walk_eq_some_iff.mpr hwalks, hakin⟩

/-- A path that leads nowhere still does. -/
theorem find?_eq_none_of_reordered {tree tree' : Entries} (hsame : Reordered tree tree')
    (hsound : Sound (.directory tree)) {path : Text} (h : find? tree path = none) :
    find? tree' path = none := by
  cases hthere : find? tree' path with
  | none => rfl
  | some there =>
    obtain ⟨there', hthere', -⟩ := find?_reordered hsame.symm (hsame.sound hsound) hthere
    exact absurd (h.symm.trans hthere') (by simp)

end FileTree

end Rehearsal
