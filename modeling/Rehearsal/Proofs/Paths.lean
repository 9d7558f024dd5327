/-
  Rehearsal.Proofs.Paths
  ──────────────────────────────────────
  **Where a path leads.**

  What lies below a directory is told apart from how it is looked up: `Leads` goes
  down by the names of the entries, in whatever order these are listed, and follows
  no link; `Walks` has one rule for each step of the resolution of a path.  In a
  tree as a file system can hold it, both come to the same below a directory.

    • `walk_eq_some_iff` — resolution takes exactly the steps of `Walks`,
    • `mem_filesBelow_iff`, `nodup_filesBelow` — all files below a directory, once,
    • `find?_pathOf` — the path of a file below a root leads to this file.
-/
import Mathlib.Data.List.Nodup
import Rehearsal.Discovery

namespace Rehearsal

namespace FileTree

/-! ## §1. What lies below a directory. -/

/-- The names lead from a tree to another one inside of it; links are not
followed. -/
inductive Leads : FileTree → List Text → FileTree → Prop
  | here (tree : FileTree) : Leads tree [] tree
  | inside {entries : Entries} {name : Text} {tree there : FileTree} {names : List Text}
      (hmem : (name, tree) ∈ entries) (hleads : Leads tree names there) :
      Leads (.directory entries) (name :: names) there

/-- Nothing lies below a file. -/
theorem Leads.of_file {contents : Bytes} {names : List Text} {there : FileTree}
    (h : Leads (.file contents) names there) : names = [] ∧ there = .file contents := by
  cases h with
  | here => exact ⟨rfl, rfl⟩

/-- Nothing is reached through a link. -/
theorem Leads.of_link {target : Text} {names : List Text} {there : FileTree}
    (h : Leads (.link target) names there) : names = [] ∧ there = .link target := by
  cases h with
  | here => exact ⟨rfl, rfl⟩

/-- A file in a directory lies in one of its entries. -/
theorem leads_directory_iff {entries : Entries} {names : List Text} {contents : Bytes} :
    Leads (.directory entries) names (.file contents)
      ↔ ∃ name tree rest, names = name :: rest ∧ (name, tree) ∈ entries
        ∧ Leads tree rest (.file contents) := by
  constructor
  · intro h
    cases h with
    | inside hmem hleads => exact ⟨_, _, _, rfl, hmem, hleads⟩
  · rintro ⟨name, tree, rest, rfl, hmem, hleads⟩
    exact .inside hmem hleads

mutual

theorem mem_files_iff : ∀ (tree : FileTree) (names : List Text),
    names ∈ files tree ↔ ∃ contents, Leads tree names (.file contents)
  | .file contents, names => by
      constructor
      · intro h
        obtain rfl := List.mem_singleton.mp h
        exact ⟨contents, .here _⟩
      · rintro ⟨_, h⟩
        exact List.mem_singleton.mpr h.of_file.1
  | .link target, names => by
      constructor
      · intro h
        exact absurd h List.not_mem_nil
      · rintro ⟨_, h⟩
        exact absurd h.of_link.2 (by simp)
  | .directory entries, names => mem_filesBelow_iff entries names

/-- **All files below a directory** are listed, and nothing else. -/
theorem mem_filesBelow_iff : ∀ (entries : Entries) (names : List Text),
    names ∈ filesBelow entries ↔ ∃ contents, Leads (.directory entries) names (.file contents)
  | [], names => by
      constructor
      · intro h
        exact absurd h List.not_mem_nil
      · rintro ⟨contents, h⟩
        obtain ⟨_, _, _, -, hmem, -⟩ := leads_directory_iff.mp h
        exact absurd hmem List.not_mem_nil
  | (name, tree) :: entries, names => by
      have hfirst := mem_files_iff tree
      have hothers := mem_filesBelow_iff entries names
      show names ∈ (files tree).map (name :: ·) ++ filesBelow entries ↔ _
      rw [List.mem_append, List.mem_map, hothers]
      constructor
      · rintro (⟨rest, hrest, rfl⟩ | ⟨contents, h⟩)
        · obtain ⟨contents, h⟩ := (hfirst rest).mp hrest
          exact ⟨contents, .inside (List.mem_cons_self ..) h⟩
        · obtain ⟨_, _, _, rfl, hmem, hleads⟩ := leads_directory_iff.mp h
          exact ⟨contents, .inside (List.mem_cons_of_mem _ hmem) hleads⟩
      · rintro ⟨contents, h⟩
        obtain ⟨_, _, rest, rfl, hmem, hleads⟩ := leads_directory_iff.mp h
        rcases List.mem_cons.mp hmem with heq | hmem
        · obtain ⟨rfl, rfl⟩ := Prod.mk.inj heq
          exact .inl ⟨rest, (hfirst rest).mpr ⟨contents, hleads⟩, rfl⟩
        · exact .inr ⟨contents, .inside hmem hleads⟩

end

/-! ## §2. Trees that a file system can hold. -/

/-- A name that an entry of a directory can have. -/
def IsName (name : Text) : Prop :=
  name ≠ [] ∧ name ≠ ['.'] ∧ name ≠ ['.', '.'] ∧ '/' ∉ name ∧ '\x00' ∉ name

instance (name : Text) : Decidable (IsName name) :=
  inferInstanceAs (Decidable (_ ∧ _ ∧ _ ∧ _ ∧ _))

/-- In every directory, all entries have names, and no two of them the same. -/
inductive Sound : FileTree → Prop
  | file (contents : Bytes) : Sound (.file contents)
  | link (target : Text) : Sound (.link target)
  | directory {entries : Entries} (hdistinct : (entries.map Prod.fst).Nodup)
      (hnames : ∀ entry ∈ entries, IsName entry.1) (hbelow : ∀ entry ∈ entries, Sound entry.2) :
      Sound (.directory entries)

/-- A directory is sound if its first entry and the directory of all others are, and
the name of the first one is new. -/
theorem sound_cons_iff {name : Text} {tree : FileTree} {entries : Entries} :
    Sound (.directory ((name, tree) :: entries))
      ↔ name ∉ entries.map Prod.fst ∧ IsName name ∧ Sound tree ∧ Sound (.directory entries) := by
  constructor
  · intro h
    cases h with
    | directory hdistinct hnames hbelow =>
      obtain ⟨hnew, hdistinct⟩ := List.nodup_cons.mp hdistinct
      obtain ⟨hname, hnames⟩ := List.forall_mem_cons.mp hnames
      obtain ⟨htree, hbelow⟩ := List.forall_mem_cons.mp hbelow
      exact ⟨hnew, hname, htree, .directory hdistinct hnames hbelow⟩
  · rintro ⟨hnew, hname, htree, hentries⟩
    cases hentries with
    | directory hdistinct hnames hbelow =>
      exact .directory (List.nodup_cons.mpr ⟨hnew, hdistinct⟩)
        (List.forall_mem_cons.mpr ⟨hname, hnames⟩) (List.forall_mem_cons.mpr ⟨htree, hbelow⟩)

/-- In a sound directory, a name is looked up where it is listed. -/
theorem Sound.lookup_eq_some_iff {entries : Entries} (h : Sound (.directory entries)) {name : Text}
    {tree : FileTree} : entries.lookup name = some tree ↔ (name, tree) ∈ entries := by
  induction entries with
  | nil => simp
  | cons entry entries ih =>
    obtain ⟨key, first⟩ := entry
    obtain ⟨hnew, -, -, hentries⟩ := sound_cons_iff.mp h
    by_cases hkey : name = key
    · subst hkey
      have hnot : (name, tree) ∉ entries := fun hmem =>
        hnew (List.mem_map.mpr ⟨_, hmem, rfl⟩)
      simp [hnot, eq_comm]
    · have hbeq : (name == key) = false := beq_eq_false_iff_ne.mpr hkey
      rw [List.lookup_cons, hbeq, List.mem_cons]
      simp [hkey, ih hentries]

/-- What lies in a sound directory is sound, and so is its name. -/
theorem Sound.of_mem {entries : Entries} (h : Sound (.directory entries)) {name : Text}
    {tree : FileTree} (hmem : (name, tree) ∈ entries) : IsName name ∧ Sound tree := by
  cases h with
  | directory _ hnames hbelow => exact ⟨hnames _ hmem, hbelow _ hmem⟩

/-- Only proper names lead to what lies below a sound directory. -/
theorem Leads.isName {tree there : FileTree} {names : List Text} (h : Leads tree names there)
    (hsound : Sound tree) : ∀ name ∈ names, IsName name := by
  induction h with
  | here => exact fun _ h => absurd h List.not_mem_nil
  | inside hmem _ ih =>
    obtain ⟨hname, htree⟩ := hsound.of_mem hmem
    exact List.forall_mem_cons.mpr ⟨hname, ih htree⟩

/-- The same names lead to one thing. -/
theorem Leads.unique {tree there there' : FileTree} {names : List Text} (hsound : Sound tree)
    (h : Leads tree names there) (h' : Leads tree names there') : there = there' := by
  induction h with
  | here =>
    cases h' with
    | here => rfl
  | inside hmem _ ih =>
    cases h' with
    | inside hmem' hleads' =>
      -- Both names are looked up at the same place.
      have hlookup := hsound.lookup_eq_some_iff.mpr hmem
      have hlookup' := hsound.lookup_eq_some_iff.mpr hmem'
      obtain rfl := Option.some.inj (hlookup.symm.trans hlookup')
      exact ih (hsound.of_mem hmem).2 hleads'

mutual

theorem nodup_files : ∀ tree : FileTree, Sound tree → (files tree).Nodup
  | .file _, _ => by simp [files]
  | .link _, _ => List.nodup_nil
  | .directory entries, h => nodup_filesBelow entries h

/-- No file is listed twice. -/
theorem nodup_filesBelow : ∀ entries : Entries, Sound (.directory entries) →
    (filesBelow entries).Nodup
  | [], _ => List.nodup_nil
  | (name, tree) :: entries, h => by
      obtain ⟨hnew, -, htree, hentries⟩ := sound_cons_iff.mp h
      have hfirst := nodup_files tree htree
      have hothers := nodup_filesBelow entries hentries
      show ((files tree).map (name :: ·) ++ filesBelow entries).Nodup
      refine List.nodup_append.mpr ⟨?_, hothers, ?_⟩
      · exact hfirst.map fun a b hab => (List.cons.inj hab).2
      · intro names hnames others hothers heq
        obtain ⟨rest, -, rfl⟩ := List.mem_map.mp hnames
        subst heq
        obtain ⟨contents, hleads⟩ := (mem_filesBelow_iff _ _).mp hothers
        obtain ⟨_, _, _, heq, hmem, -⟩ := leads_directory_iff.mp hleads
        obtain ⟨rfl, rfl⟩ := List.cons.inj heq
        exact hnew (List.mem_map.mpr ⟨_, hmem, rfl⟩)

end

/-! ## §3. The steps of a resolution. -/

/-- One rule for each step from the innermost directory at hand. -/
inductive Walks : Nat → List Entries → List Text → FileTree → Prop
  | done {links : Nat} {entries : Entries} {outer : List Entries} :
      Walks links (entries :: outer) [] (.directory entries)
  /-- Nothing and a dot stay where they are. -/
  | stay {links : Nat} {inside : List Entries} {name : Text} {rest : List Text} {there : FileTree}
      (hname : name = [] ∨ name = ['.']) (h : Walks links inside rest there) :
      Walks links inside (name :: rest) there
  | up {links : Nat} {entries parent : Entries} {outer : List Entries} {rest : List Text}
      {there : FileTree} (h : Walks links (parent :: outer) rest there) :
      Walks links (entries :: parent :: outer) (['.', '.'] :: rest) there
  | file {links : Nat} {entries : Entries} {outer : List Entries} {name : Text} {contents : Bytes}
      (hname : name ≠ [] ∧ name ≠ ['.'] ∧ name ≠ ['.', '.'])
      (hlookup : entries.lookup name = some (.file contents)) :
      Walks links (entries :: outer) [name] (.file contents)
  | enter {links : Nat} {entries below : Entries} {outer : List Entries} {name : Text}
      {rest : List Text} {there : FileTree}
      (hname : name ≠ [] ∧ name ≠ ['.'] ∧ name ≠ ['.', '.'])
      (hlookup : entries.lookup name = some (.directory below))
      (h : Walks links (below :: entries :: outer) rest there) :
      Walks links (entries :: outer) (name :: rest) there
  /-- A link is followed from the directory that holds it. -/
  | follow {links : Nat} {entries : Entries} {outer : List Entries} {name target : Text}
      {rest : List Text} {there : FileTree}
      (hname : name ≠ [] ∧ name ≠ ['.'] ∧ name ≠ ['.', '.'])
      (hlookup : entries.lookup name = some (.link target))
      (htarget : ¬ (target.head? = some '/' ∨ target = []))
      (h : Walks links (entries :: outer) (components target ++ rest) there) :
      Walks (links + 1) (entries :: outer) (name :: rest) there

/-- A name that is looked up in the innermost directory. -/
theorem walk_name {links : Nat} {inside : List Entries} {name : Text} {rest : List Text}
    (hstay : ¬ (name = [] ∨ name = ['.'])) (hup : name ≠ ['.', '.']) :
    walk links inside (name :: rest) = match (inside.head?.getD []).lookup name with
      | none => none
      | some (.file contents) => if rest = [] then some (.file contents) else none
      | some (.directory entries) => walk links (entries :: inside) rest
      | some (.link target) =>
          match links with
          | 0 => none
          | links + 1 =>
              if target.head? = some '/' ∨ target = [] then none
              else walk links inside (components target ++ rest) := by
  rw [walk.eq_def]
  exact (if_neg hstay).trans (if_neg hup)

/-- Each rule is a step of the resolution. -/
theorem Walks.walk_eq {links : Nat} {inside : List Entries} {path : List Text} {there : FileTree}
    (h : Walks links inside path there) : walk links inside path = some there := by
  induction h with
  | done => rw [walk]; rfl
  | stay hname _ ih =>
    rw [walk.eq_def]
    simp only [if_pos hname, ih]
  | up _ ih =>
    rw [walk.eq_def]
    simpa using ih
  | file hname hlookup =>
    rw [walk_name (by simp [hname]) hname.2.2]
    simp [hlookup]
  | enter hname hlookup _ ih =>
    rw [walk_name (by simp [hname]) hname.2.2]
    simp [hlookup, ih]
  | follow hname hlookup htarget _ ih =>
    rw [walk_name (by simp [hname]) hname.2.2]
    simp only [List.head?_cons, Option.getD_some, hlookup, if_neg htarget, ih]

/-- A name is found only in a directory. -/
theorem exists_of_lookup_head {inside : List Entries} {name : Text} {tree : FileTree}
    (h : (inside.head?.getD []).lookup name = some tree) :
    ∃ entries outer, inside = entries :: outer ∧ entries.lookup name = some tree := by
  cases inside with
  | nil => exact absurd h (by simp)
  | cons entries outer => exact ⟨entries, outer, rfl, h⟩

/-- **Resolution takes exactly these steps.** -/
theorem walk_eq_some_iff {links : Nat} {inside : List Entries} {path : List Text}
    {there : FileTree} : walk links inside path = some there ↔ Walks links inside path there := by
  refine ⟨fun h => ?_, Walks.walk_eq⟩
  -- One case for each branch of the function; the ones that find nothing are void.
  induction links, inside, path using walk.induct with
  | case1 links inside =>
    rw [walk] at h
    obtain ⟨entries, hhead, rfl⟩ := Option.map_eq_some_iff.mp h
    obtain ⟨outer, rfl⟩ := List.head?_eq_some_iff.mp hhead
    exact .done
  | case2 links inside name rest hname ih =>
    rw [walk.eq_def] at h
    simp only [if_pos hname] at h
    exact .stay hname (ih h)
  | case3 links rest entries parent outer _ ih =>
    rw [walk.eq_def] at h
    exact .up (ih (by simpa using h))
  | case4 links inside rest hroot _ =>
    rw [walk.eq_3 _ _ _ _ hroot] at h
    exact absurd h (by simp)
  | case5 links inside name rest hstay hup hlookup =>
    rw [walk_name hstay hup, hlookup] at h
    exact absurd h (by simp)
  | case6 links inside name hstay hup contents hlookup =>
    rw [walk_name hstay hup, hlookup] at h
    obtain ⟨entries, outer, rfl, hlookup⟩ := exists_of_lookup_head hlookup
    obtain rfl : FileTree.file contents = there := by simpa using h
    exact .file (by simpa [and_assoc, hup] using hstay) hlookup
  | case7 links inside name rest hstay hup contents hlookup hrest =>
    rw [walk_name hstay hup, hlookup] at h
    simp [hrest] at h
  | case8 links inside name rest hstay hup entries hlookup ih =>
    rw [walk_name hstay hup, hlookup] at h
    obtain ⟨_, outer, rfl, hlookup⟩ := exists_of_lookup_head hlookup
    exact .enter (by simpa [and_assoc, hup] using hstay) hlookup (ih h)
  | case9 inside name rest hstay hup target hlookup =>
    rw [walk_name hstay hup, hlookup] at h
    exact absurd h (by simp)
  | case10 inside name rest hstay hup target hlookup links htarget =>
    rw [walk_name hstay hup, hlookup] at h
    simp [htarget] at h
  | case11 inside name rest hstay hup target hlookup links htarget ih =>
    rw [walk_name hstay hup, hlookup] at h
    simp only [if_neg htarget] at h
    obtain ⟨_, outer, rfl, hlookup⟩ := exists_of_lookup_head hlookup
    exact .follow (by simpa [and_assoc, hup] using hstay) hlookup htarget (ih h)

namespace Walks

variable {links : Nat} {inside : List Entries} {path : List Text} {there : FileTree}

/-- What is reached in a sound tree is sound. -/
theorem sound (h : Walks links inside path there)
    (hinside : ∀ entries ∈ inside, Sound (.directory entries)) : Sound there := by
  induction h with
  | done => exact hinside _ (List.mem_cons_self ..)
  | stay _ _ ih => exact ih hinside
  | up _ ih => exact ih (List.forall_mem_cons.mp hinside).2
  | file => exact .file _
  | enter _ hlookup _ ih =>
    have hentries := hinside _ (List.mem_cons_self ..)
    have hbelow := (hentries.of_mem (hentries.lookup_eq_some_iff.mp hlookup)).2
    exact ih (List.forall_mem_cons.mpr ⟨hbelow, hinside⟩)
  | follow _ _ _ _ ih => exact ih hinside

/-- Links are never the end of a path. -/
theorem ne_link (h : Walks links inside path there) (target : Text) : there ≠ .link target := by
  induction h with
  | done => exact nofun
  | file => exact nofun
  | stay _ _ ih => exact ih
  | up _ ih => exact ih
  | enter _ _ _ ih => exact ih
  | follow _ _ _ _ ih => exact ih

/-- **Behind a path to a directory** the resolution goes on in this directory. -/
theorem append {entries : Entries} {names : List Text}
    (h : Walks links inside path (.directory entries))
    (hnext : ∀ links outer, Walks links (entries :: outer) names there) :
    Walks links inside (path ++ names) there := by
  generalize hdirectory : FileTree.directory entries = tree at h
  induction h with
  | done =>
    obtain rfl := FileTree.directory.inj hdirectory
    exact hnext _ _
  | stay hname _ ih => exact .stay hname (ih hdirectory)
  | up _ ih => exact .up (ih hdirectory)
  | file => exact absurd hdirectory (by simp)
  | enter hname hlookup _ ih => exact .enter hname hlookup (ih hdirectory)
  | @follow links _ outer _ target rest _ hname hlookup htarget _ ih =>
    refine .follow hname hlookup htarget ?_
    show Walks links _ (components target ++ (rest ++ names)) _
    rw [← List.append_assoc]
    exact ih hdirectory

/-- An empty component in a path does not matter. -/
theorem without_empty {front back : List Text}
    (h : Walks links inside (front ++ [] :: back) there) :
    Walks links inside (front ++ back) there := by
  generalize hpath : front ++ [] :: back = path at h
  induction h generalizing front with
  | done => exact absurd hpath (by simp)
  | @stay links inside name rest there hname h ih =>
    cases front with
    | nil =>
      obtain ⟨-, rfl⟩ := List.cons.inj hpath
      exact h
    | cons first front =>
      obtain ⟨rfl, hrest⟩ := List.cons.inj hpath
      exact .stay hname (ih hrest)
  | up _ ih =>
    cases front with
    | nil => exact absurd hpath (by simp)
    | cons first front =>
      obtain ⟨rfl, hrest⟩ := List.cons.inj hpath
      exact .up (ih hrest)
  | file hname =>
    cases front with
    | nil => exact absurd (List.cons.inj hpath).1.symm hname.1
    | cons first front => exact absurd (List.cons.inj hpath).2 (by simp)
  | enter hname hlookup _ ih =>
    cases front with
    | nil => exact absurd (List.cons.inj hpath).1.symm hname.1
    | cons first front =>
      obtain ⟨rfl, hrest⟩ := List.cons.inj hpath
      exact .enter hname hlookup (ih hrest)
  | @follow links _ _ _ target _ _ hname hlookup htarget _ ih =>
    cases front with
    | nil => exact absurd (List.cons.inj hpath).1.symm hname.1
    | cons first front =>
      obtain ⟨rfl, hrest⟩ := List.cons.inj hpath
      refine .follow hname hlookup htarget ?_
      show Walks links _ (components target ++ (front ++ back)) _
      rw [← List.append_assoc]
      refine ih ?_
      rw [List.append_assoc]
      exact congrArg (components target ++ ·) hrest

end Walks

/-- **Names that lead to a file are a path to it.** -/
theorem Leads.walks {entries : Entries} {names : List Text} {contents : Bytes}
    (h : Leads (.directory entries) names (.file contents)) (hsound : Sound (.directory entries))
    (links : Nat) (outer : List Entries) :
    Walks links (entries :: outer) names (.file contents) := by
  induction names generalizing entries outer with
  | nil => exact absurd h nofun
  | cons name names ih =>
    obtain ⟨_, tree, _, heq, hmem, hleads⟩ := leads_directory_iff.mp h
    obtain ⟨rfl, rfl⟩ := List.cons.inj heq
    obtain ⟨hname, htree⟩ := hsound.of_mem hmem
    have hstep : name ≠ [] ∧ name ≠ ['.'] ∧ name ≠ ['.', '.'] := ⟨hname.1, hname.2.1, hname.2.2.1⟩
    have hlookup := hsound.lookup_eq_some_iff.mpr hmem
    cases tree with
    | file other =>
      obtain ⟨rfl, hfile⟩ := hleads.of_file
      obtain rfl := FileTree.file.inj hfile
      exact .file hstep hlookup
    | link target => exact absurd hleads.of_link.2 (by simp)
    | directory below => exact .enter hstep hlookup (ih hleads htree (entries :: outer))

/-- What a path of a working directory leads to is reached by its components. -/
theorem walks_of_find? {tree : Entries} {path : Text} {there : FileTree}
    (h : find? tree path = some there) : Walks maxLinks [tree] (components path) there := by
  unfold find? at h
  split at h
  · exact absurd h (by simp)
  · exact walk_eq_some_iff.mp h

/-- A path in a sound tree leads to a sound tree. -/
theorem find?_sound {tree : Entries} {path : Text} {there : FileTree}
    (hsound : Sound (.directory tree)) (h : find? tree path = some there) : Sound there :=
  (walks_of_find? h).sound fun _ h => List.mem_singleton.mp h ▸ hsound

/-! ## §4. Paths as text. -/

theorem components_ne_nil (path : Text) : components path ≠ [] := by
  cases path with
  | nil => simp [components]
  | cons c path =>
    unfold components
    split
    · simp
    · split <;> simp

theorem components_cons_slash (path : Text) : components ('/' :: path) = [] :: components path := by
  rw [components, if_pos rfl]

theorem components_cons {c : Char} {path name : Text} {others : List Text} (hc : c ≠ '/')
    (h : components path = name :: others) : components (c :: path) = (c :: name) :: others := by
  rw [components, if_neg hc, h]

/-- A path is cut at every slash. -/
theorem components_slash (front back : Text) :
    components (front ++ '/' :: back) = components front ++ components back := by
  induction front with
  | nil => exact components_cons_slash back
  | cons c front ih =>
    by_cases hc : c = '/'
    · subst hc
      show components ('/' :: (front ++ '/' :: back)) = _
      rw [components_cons_slash, components_cons_slash, ih]
      rfl
    · obtain ⟨name, others, hfront⟩ := List.exists_cons_of_ne_nil (components_ne_nil front)
      rw [hfront] at ih
      rw [components_cons hc hfront]
      exact components_cons hc ih

/-- Without a slash, there is nothing to cut. -/
theorem components_flat {name : Text} (h : '/' ∉ name) : components name = [name] := by
  induction name with
  | nil => rfl
  | cons c name ih =>
    rw [List.mem_cons, not_or] at h
    exact components_cons (Ne.symm h.1) (ih h.2)

/-- The names in a path. -/
def parts (path : Text) : List Text := (components path).filter (· ≠ [])

/-- A slash at the end of a directory is as good as the one that is put there. -/
theorem components_join (root : Text) :
    ∃ front, (components root = front ∨ components root = front ++ [[]])
      ∧ ∀ name, '/' ∉ name → components (join root name) = front ++ [name] := by
  by_cases hroot : root.getLast? = some '/'
  · obtain ⟨front, rfl⟩ := List.getLast?_eq_some_iff.mp hroot
    refine ⟨components front, .inr (components_slash front []), fun name hname => ?_⟩
    unfold join
    rw [if_pos hroot, List.append_assoc, ← components_flat hname]
    exact components_slash front name
  · refine ⟨components root, .inl rfl, fun name hname => ?_⟩
    unfold join
    rw [if_neg hroot, components_slash, components_flat hname]

/-- A name does not end with a slash, and so does no path that ends with a name. -/
theorem getLast?_join {root name : Text} (h : IsName name) :
    (join root name).getLast? ≠ some '/' := by
  obtain ⟨hne, -, -, hslash, -⟩ := h
  obtain ⟨last, hlast⟩ := Option.ne_none_iff_exists'.mp (mt List.getLast?_eq_none_iff.mp hne)
  have hchar : last ≠ '/' := fun heq => hslash (heq ▸ List.mem_of_getLast? hlast)
  unfold join
  split
  · simp [List.getLast?_append, hlast, hchar]
  · simp [List.getLast?_append, List.getLast?_cons, hlast, hchar]

end FileTree

namespace Discovery

open FileTree

variable {root : Text} {names : List Text}

/-- Names are put behind a path one by one. -/
theorem components_pathOf_open (hroot : root.getLast? ≠ some '/')
    (hnames : ∀ name ∈ names, IsName name) :
    components (pathOf root names) = components root ++ names := by
  induction names generalizing root with
  | nil => exact (List.append_nil _).symm
  | cons name names ih =>
    obtain ⟨hname, hnames⟩ := List.forall_mem_cons.mp hnames
    have hjoin : components (join root name) = components root ++ [name] := by
      unfold join
      rw [if_neg hroot, components_slash, components_flat hname.2.2.2.1]
    show components (pathOf (join root name) names) = _
    rw [ih (getLast?_join hname) hnames, hjoin, List.append_assoc]
    rfl

/-- **The components of a path below a root.** -/
theorem components_pathOf (root : Text) :
    ∃ front, (components root = front ∨ components root = front ++ [[]])
      ∧ ∀ names, names ≠ [] → (∀ name ∈ names, IsName name) →
        components (pathOf root names) = front ++ names := by
  obtain ⟨front, hroot, hjoin⟩ := components_join root
  refine ⟨front, hroot, fun names hne hnames => ?_⟩
  cases names with
  | nil => exact absurd rfl hne
  | cons name names =>
    obtain ⟨hname, hnames⟩ := List.forall_mem_cons.mp hnames
    show components (pathOf (join root name) names) = _
    rw [components_pathOf_open (getLast?_join hname) hnames, hjoin name hname.2.2.2.1,
      List.append_assoc]
    rfl

/-- The names in a path below a root are those of the root and those below it. -/
theorem parts_pathOf (hne : names ≠ []) (hnames : ∀ name ∈ names, IsName name) :
    parts (pathOf root names) = parts root ++ names := by
  obtain ⟨front, hroot, hbelow⟩ := components_pathOf root
  have hkept : names.filter (· ≠ []) = names :=
    List.filter_eq_self.mpr fun name hname => by simp [(hnames name hname).1]
  have hfront : parts root = front.filter (· ≠ []) := by
    unfold parts
    rcases hroot with h | h <;> rw [h]
    rw [List.filter_append]
    simp
  unfold parts at hfront ⊢
  rw [hbelow names hne hnames, List.filter_append, hkept, hfront]

/-- A path below a root starts with the root. -/
theorem exists_pathOf_eq (root : Text) (hnames : ∀ name ∈ names, IsName name) :
    ∃ more, pathOf root names = root ++ more ∧ '\x00' ∉ more := by
  induction names generalizing root with
  | nil => exact ⟨[], (List.append_nil root).symm, List.not_mem_nil⟩
  | cons name names ih =>
    obtain ⟨hname, hnames⟩ := List.forall_mem_cons.mp hnames
    obtain ⟨more, hmore, hplain⟩ := ih (join root name) hnames
    have hjoin : ∃ put, join root name = root ++ put ∧ '\x00' ∉ put := by
      unfold join
      split
      · exact ⟨name, rfl, hname.2.2.2.2⟩
      · exact ⟨'/' :: name, rfl, by simpa using hname.2.2.2.2⟩
    obtain ⟨put, hput, hplain'⟩ := hjoin
    refine ⟨put ++ more, ?_, ?_⟩
    · rw [← List.append_assoc, ← hput]
      exact hmore
    · rw [List.mem_append]
      exact fun h => h.elim hplain' hplain

/-- **The path of a file below a root leads to this file.** -/
theorem find?_pathOf {tree entries : Entries} {contents : Bytes}
    (hsound : Sound (.directory tree)) (hroot : find? tree root = some (.directory entries))
    (hleads : Leads (.directory entries) names (.file contents)) :
    find? tree (pathOf root names) = some (.file contents) := by
  have hwalks := walks_of_find? hroot
  have hentries := find?_sound hsound hroot
  have hguard : ¬ (root = [] ∨ root.head? = some '/' ∨ root.contains '\x00') := by
    intro hguard
    unfold find? at hroot
    rw [if_pos hguard] at hroot
    exact absurd hroot (by simp)
  have hnames := hleads.isName hentries
  have hne : names ≠ [] := by
    rintro rfl
    exact absurd hleads nofun
  -- The root is resolved first, and the names lead on from there.
  obtain ⟨front, hfront, hbelow⟩ := components_pathOf root
  have hwalks' : Walks maxLinks [tree] front (.directory entries) := by
    rcases hfront with h | h <;> rw [h] at hwalks
    · exact hwalks
    · simpa using hwalks.without_empty
  have hfile := hwalks'.append fun links outer => hleads.walks hentries links outer
  obtain ⟨more, hmore, hplain⟩ := exists_pathOf_eq root hnames
  have hguard' : ¬ (pathOf root names = [] ∨ (pathOf root names).head? = some '/'
      ∨ (pathOf root names).contains '\x00') := by
    rw [hmore]
    cases root with
    | nil => exact absurd (.inl rfl) hguard
    | cons c root => simpa [hplain] using hguard
  unfold find?
  rw [if_neg hguard', hbelow names hne hnames]
  exact walk_eq_some_iff.mpr hfile

end Discovery

end Rehearsal
