/-
  Rehearsal.Proofs.Enumeration
  ──────────────────────────────────────
  **Manifests are found and loaded in the order of their paths.**

  The manifests of a directory are the files below it with one of three extensions.
  Sorted by their paths there is one list of them, whatever order the directories
  list their entries in; so this order shows neither in what is found, nor in what
  is loaded, nor in the fault that ends loading.

    • `pathLE_iff` — paths are compared component by component,
    • `isManifest_iff` — which names are those of manifests,
    • `manifestsBelow_lists`, `Lists.unique` — the one list of what is found,
    • `loadPaths_loaded` — what loading some files comes to,
    • `load_order_unseen` — discovery and loading over all listing orders.
-/
import Mathlib
import Rehearsal.Proofs.Reordering

namespace Rehearsal.Discovery

open FileTree

/-! ## §1. The order of paths. -/

/-- A text is a proper beginning of another one, or its first different character
has the smaller number. -/
def TextBefore : Text → Text → Prop := List.Lex fun c d => c.toNat < d.toNat

/-- A path is a proper beginning of another one, or its first different component
stands before the other one. -/
def PathBefore : List Text → List Text → Prop := List.Lex TextBefore

theorem TextBefore.irrefl (a : Text) : ¬ TextBefore a a :=
  List.lex_irrefl (fun c => Nat.lt_irrefl c.toNat) a

theorem TextBefore.trans {a b c : Text} (h : TextBefore a b) (h' : TextBefore b c) :
    TextBefore a c :=
  List.lex_trans Nat.lt_trans h h'

theorem TextBefore.asymm {a b : Text} (h : TextBefore a b) : ¬ TextBefore b a :=
  List.lex_asymm Nat.lt_asymm h

theorem PathBefore.irrefl (a : List Text) : ¬ PathBefore a a := List.lex_irrefl TextBefore.irrefl a

theorem PathBefore.trans {a b c : List Text} (h : PathBefore a b) (h' : PathBefore b c) :
    PathBefore a c :=
  List.lex_trans TextBefore.trans h h'

theorem PathBefore.asymm {a b : List Text} (h : PathBefore a b) : ¬ PathBefore b a :=
  List.lex_asymm TextBefore.asymm h

instance trichotomous_char : Std.Trichotomous fun c d : Char => c.toNat < d.toNat where
  trichotomous _ _ h h' :=
    Char.toNat_inj.mp (Nat.le_antisymm (Nat.le_of_not_lt h') (Nat.le_of_not_lt h))

instance TextBefore.trichotomous : Std.Trichotomous TextBefore := List.Lex.trichotomous _

instance PathBefore.trichotomous : Std.Trichotomous PathBefore := List.Lex.trichotomous _

/-- Texts are compared by the numbers of their characters. -/
theorem textLE_iff (a b : Text) : textLE a b = true ↔ a = b ∨ TextBefore a b := by
  unfold TextBefore
  induction a generalizing b with
  | nil =>
    have hnil := (List.lex_nil_or_eq_nil (r := fun c d : Char => c.toNat < d.toNat) b).symm
    simpa [textLE, eq_comm] using hnil
  | cons c a ih =>
    cases b with
    | nil => simp [textLE]
    | cons d b =>
      rw [textLE, List.cons_lex_cons_iff, List.cons.injEq]
      by_cases h : c = d
      · subst h
        simp [ih]
      · have hne : c.toNat ≠ d.toNat := mt Char.toNat_inj.mp h
        have hle : c.toNat ≤ d.toNat ↔ c.toNat < d.toNat := by omega
        simp [h, hle]

/-- **Paths are compared component by component.** -/
theorem pathLE_iff (a b : List Text) : pathLE a b = true ↔ a = b ∨ PathBefore a b := by
  unfold PathBefore
  induction a generalizing b with
  | nil =>
    have hnil := (List.lex_nil_or_eq_nil (r := TextBefore) b).symm
    simpa [pathLE, eq_comm] using hnil
  | cons s a ih =>
    cases b with
    | nil => simp [pathLE]
    | cons t b =>
      rw [pathLE, List.cons_lex_cons_iff, List.cons.injEq]
      by_cases h : s = t
      · subst h
        simp [ih, TextBefore.irrefl]
      · simp [h, textLE_iff]

theorem pathLE_trans {a b c : List Text} (hab : pathLE a b = true) (hbc : pathLE b c = true) :
    pathLE a c = true := by
  rw [pathLE_iff] at hab hbc ⊢
  rcases hab with rfl | hab
  · exact hbc
  · rcases hbc with rfl | hbc
    · exact .inr hab
    · exact .inr (hab.trans hbc)

theorem pathLE_total (a b : List Text) : (pathLE a b || pathLE b a) = true := by
  rw [Bool.or_eq_true, pathLE_iff, pathLE_iff]
  rcases trichotomous_of PathBefore a b with h | rfl | h
  · exact .inl (.inr h)
  · exact .inl (.inl rfl)
  · exact .inr (.inr h)

/-! ## §2. The names of manifests. -/

/-- The extension is what stands behind the last dot of a name; something has to
stand in front of this dot. -/
def HasExtension (name extension : Text) : Prop :=
  ∃ stem, stem ≠ [] ∧ name = stem ++ '.' :: extension ∧ '.' ∉ extension

theorem extension?_eq_some_iff (name extension : Text) :
    extension? name = some extension ↔ HasExtension name extension := by
  have hdrop : ∀ t : Text, t.drop (t.takeWhile (· ≠ '.')).length = t.dropWhile (· ≠ '.') := by
    intro t
    conv => lhs; arg 2; rw [← List.takeWhile_append_dropWhile (p := (· ≠ '.')) (l := t)]
    exact List.drop_left
  unfold extension?
  simp only [hdrop]
  constructor
  · intro h
    split at h
    · rename_i c stem hbehind
      obtain rfl := Option.some.inj h
      have hwhole := List.takeWhile_append_dropWhile (p := (· ≠ '.')) (l := name.reverse)
      rw [hbehind] at hwhole
      refine ⟨(c :: stem).reverse, by simp, ?_, ?_⟩
      · have hname := congrArg List.reverse hwhole
        simpa using hname.symm
      · intro hdot
        have hne := List.all_eq_true.mp List.all_takeWhile _ (List.mem_reverse.mp hdot)
        exact absurd hne (by simp)
    · exact absurd h (by simp)
  · rintro ⟨stem, hstem, rfl, hdot⟩
    obtain ⟨c, others, hothers⟩ := List.exists_cons_of_ne_nil (mt List.reverse_eq_nil_iff.mp hstem)
    have hfront : ∀ c ∈ extension.reverse, decide (c ≠ '.') = true := by
      intro c hc
      have hne : c ≠ '.' := fun heq => hdot (heq ▸ List.mem_reverse.mp hc)
      simp [hne]
    have hreverse : (stem ++ '.' :: extension).reverse
        = extension.reverse ++ '.' :: c :: others := by
      simp [← hothers]
    rw [hreverse, List.takeWhile_append_of_pos hfront, List.dropWhile_append_of_pos hfront]
    simp

/-- **Which names are those of manifests.** -/
theorem isManifest_iff (name : Text) :
    isManifest name = true ↔ ∃ extension ∈ extensions, HasExtension name extension := by
  unfold isManifest
  rw [Option.any_eq_true]
  constructor
  · rintro ⟨extension, hextension, hmem⟩
    exact ⟨extension, by simpa using hmem, (extension?_eq_some_iff _ _).mp hextension⟩
  · rintro ⟨extension, hmem, hextension⟩
    exact ⟨extension, (extension?_eq_some_iff _ _).mpr hextension, by simpa using hmem⟩

/-! ## §3. Discovery. -/

/-- A path that ends with the name of a manifest. -/
def IsManifestPath (names : List Text) : Prop :=
  ∃ extension ∈ extensions, HasExtension (names.getLastD []) extension

/-- All manifests below a directory with their contents, in strictly increasing
order of their paths. -/
structure Lists (entries : Entries) (found : List (List Text × Bytes)) : Prop where
  sorted : (found.map Prod.fst).Pairwise PathBefore
  mem_iff : ∀ names contents, (names, contents) ∈ found
    ↔ Leads (.directory entries) names (.file contents) ∧ IsManifestPath names

/-- There is one such list. -/
theorem Lists.unique {entries : Entries} {found found' : List (List Text × Bytes)}
    (h : Lists entries found) (h' : Lists entries found') : found = found' := by
  have hsorted := List.pairwise_map.mp h.sorted
  have hsorted' := List.pairwise_map.mp h'.sorted
  have hne : ∀ a b : List Text × Bytes, PathBefore a.1 b.1 → a ≠ b := by
    rintro a _ hbefore rfl
    exact PathBefore.irrefl _ hbefore
  have hperm : found.Perm found' := by
    refine (List.perm_ext_iff_of_nodup (hsorted.imp (hne _ _)) (hsorted'.imp (hne _ _))).mpr ?_
    intro (names, contents)
    rw [h.mem_iff, h'.mem_iff]
  exact hperm.eq_of_pairwise (fun a b _ _ hab hba => absurd hba (PathBefore.asymm hab))
    hsorted hsorted'

/-- The list does not depend on the order of entries. -/
theorem Lists.of_reordered {entries entries' : Entries} {found : List (List Text × Bytes)}
    (h : Lists entries found) (hsame : Reordered entries entries') : Lists entries' found where
  sorted := h.sorted
  mem_iff names contents := by
    rw [h.mem_iff]
    exact and_congr_left fun _ =>
      ⟨fun hleads => hleads.of_akin (.directory hsame),
        fun hleads => hleads.of_akin (.directory hsame.symm)⟩

/-- What is found below a directory, as a list of paths. -/
theorem mem_manifestsBelow_iff (entries : Entries) (names : List Text) :
    names ∈ manifestsBelow entries
      ↔ (∃ contents, Leads (.directory entries) names (.file contents))
        ∧ IsManifestPath names := by
  unfold manifestsBelow IsManifestPath
  rw [(List.mergeSort_perm _ _).mem_iff, List.mem_filter, mem_filesBelow_iff, isManifest_iff]

/-- The paths are sorted, and none is found twice. -/
theorem manifestsBelow_sorted {entries : Entries} (h : Sound (.directory entries)) :
    (manifestsBelow entries).Pairwise PathBefore := by
  have hle : (manifestsBelow entries).Pairwise fun a b => pathLE a b = true := by
    unfold manifestsBelow
    apply List.pairwise_mergeSort
    · intro a b c
      exact pathLE_trans
    · exact pathLE_total
  have hdistinct : (manifestsBelow entries).Nodup :=
    (List.mergeSort_perm _ _).nodup_iff.mpr ((nodup_filesBelow entries h).filter _)
  refine (hle.and (List.nodup_iff_pairwise_ne.mp hdistinct)).imp ?_
  rintro a b ⟨hab, hne⟩
  exact ((pathLE_iff a b).mp hab).resolve_left hne

/-- **Discovery finds the one list.** -/
theorem manifestsBelow_lists {entries : Entries} (h : Sound (.directory entries)) :
    ∃ found, Lists entries found ∧ found.map Prod.fst = manifestsBelow entries := by
  -- Every path comes with the contents of its file.
  have hcontents : ∀ paths : List (List Text), (∀ names ∈ paths, names ∈ manifestsBelow entries) →
      ∃ found : List (List Text × Bytes), found.map Prod.fst = paths
        ∧ ∀ entry ∈ found, Leads (.directory entries) entry.1 (.file entry.2) := by
    intro paths hpaths
    induction paths with
    | nil => exact ⟨[], rfl, fun _ h => absurd h List.not_mem_nil⟩
    | cons names paths ih =>
      obtain ⟨hnames, hpaths⟩ := List.forall_mem_cons.mp hpaths
      obtain ⟨found, rfl, hfound⟩ := ih hpaths
      obtain ⟨⟨contents, hleads⟩, -⟩ := (mem_manifestsBelow_iff _ _).mp hnames
      exact ⟨(names, contents) :: found, rfl, List.forall_mem_cons.mpr ⟨hleads, hfound⟩⟩
  obtain ⟨found, hmap, hfound⟩ := hcontents _ fun _ h => h
  refine ⟨found, ⟨hmap ▸ manifestsBelow_sorted h, fun names contents => ?_⟩, hmap⟩
  constructor
  · intro hmem
    refine ⟨hfound _ hmem, ((mem_manifestsBelow_iff entries names).mp ?_).2⟩
    rw [← hmap]
    exact List.mem_map.mpr ⟨_, hmem, rfl⟩
  · rintro ⟨hleads, hmanifest⟩
    have hmem : names ∈ found.map Prod.fst := by
      rw [hmap, mem_manifestsBelow_iff]
      exact ⟨⟨contents, hleads⟩, hmanifest⟩
    obtain ⟨⟨_, contents'⟩, hentry, rfl⟩ := List.mem_map.mp hmem
    obtain rfl := FileTree.file.inj ((hfound _ hentry).unique h hleads)
    exact hentry

/-- What is found does not depend on the order of entries. -/
theorem manifestsBelow_reordered {entries entries' : Entries} (hsame : Reordered entries entries')
    (h : Sound (.directory entries)) : manifestsBelow entries' = manifestsBelow entries := by
  obtain ⟨found, hlists, hmap⟩ := manifestsBelow_lists h
  obtain ⟨found', hlists', hmap'⟩ := manifestsBelow_lists (hsame.sound h)
  rw [← hmap, ← hmap', (hlists.of_reordered hsame).unique hlists']

/-! ## §4. Loading. -/

/-- What loading some files comes to: all their suites, in order, or the fault of the
first file that cannot be loaded. -/
def Loaded (files : List (Text × Bytes)) (result : Except ManifestFault (List Suite)) : Prop :=
  (∃ loaded, List.Forall₂ (fun file suites => Manifest.load file.1 (some file.2) = .ok suites)
      files loaded ∧ result = .ok loaded.flatten)
    ∨ ∃ before file after fault, files = before ++ file :: after
      ∧ (∀ earlier ∈ before, ∃ suites, Manifest.load earlier.1 (some earlier.2) = .ok suites)
      ∧ Manifest.load file.1 (some file.2) = .error fault ∧ result = .error fault

namespace Loaded

variable {a b : List (Text × Bytes)} {r r' : Except ManifestFault (List Suite)}

theorem nil : Loaded [] (.ok []) := .inl ⟨[], .nil, rfl⟩

theorem single (file : Text × Bytes) : Loaded [file] (Manifest.load file.1 (some file.2)) := by
  cases h : Manifest.load file.1 (some file.2) with
  | ok suites => exact .inl ⟨[suites], .cons h .nil, by simp⟩
  | error fault =>
    exact .inr ⟨[], file, [], fault, rfl, fun _ h => absurd h List.not_mem_nil, h, rfl⟩

/-- Some files after others: a fault of the first ones is the fault of all. -/
theorem append (h : Loaded a r) (h' : Loaded b r') :
    Loaded (a ++ b) (do let suites ← r; return suites ++ (← r')) := by
  rcases h with ⟨loaded, hloaded, rfl⟩ | ⟨before, file, after, fault, rfl, hbefore, hfile, rfl⟩
  · rcases h' with ⟨loaded', hloaded', rfl⟩ | ⟨before, file, after, fault, rfl, hbefore, hfile, rfl⟩
    · left
      refine ⟨loaded ++ loaded', List.rel_append hloaded hloaded', ?_⟩
      rw [List.flatten_append]
      rfl
    · right
      have hall : ∀ file ∈ a, ∃ suites, Manifest.load file.1 (some file.2) = .ok suites :=
        ((List.forall₂_and_left a loaded).mp
          (hloaded.imp fun _ suites hfile => ⟨⟨suites, hfile⟩, hfile⟩)).1
      refine ⟨a ++ before, file, after, fault, (List.append_assoc ..).symm, ?_, hfile, rfl⟩
      intro earlier hearlier
      rcases List.mem_append.mp hearlier with hmem | hmem
      · exact hall earlier hmem
      · exact hbefore earlier hmem
  · right
    exact ⟨before, file, after ++ b, fault, by simp, hbefore, hfile, rfl⟩

end Loaded

/-- **What loading the files at some paths comes to.** -/
theorem loadPaths_loaded {lookup : Lookup} {files : List (Text × Bytes)}
    (h : ∀ file ∈ files, lookup file.1 = some (.file file.2)) :
    Loaded files (loadPaths lookup (files.map Prod.fst)) := by
  induction files with
  | nil => exact .nil
  | cons file files ih =>
    obtain ⟨hfile, hfiles⟩ := List.forall_mem_cons.mp h
    have hcontents : contents? lookup file.1 = some file.2 := by
      unfold contents?
      rw [hfile]
    show Loaded ([file] ++ files)
      (do let suites ← Manifest.load file.1 (contents? lookup file.1)
          return suites ++ (← loadPaths lookup (files.map Prod.fst)))
    rw [hcontents]
    exact (Loaded.single file).append (ih hfiles)

/-- The files that a root stands for: itself, or the manifests below it. -/
def Rooted (tree : Entries) (root : Text) (files : List (Text × Bytes)) : Prop :=
  (∃ contents, find? tree root = some (.file contents) ∧ files = [(root, contents)])
    ∨ ∃ entries found, find? tree root = some (.directory entries) ∧ Lists entries found
      ∧ files = found.map fun entry => (pathOf root entry.1, entry.2)

/-- **A root is discovered**, and each of its files can be read at its path. -/
theorem exists_rooted {tree : Entries} (hsound : Sound (.directory tree)) {root : Text}
    (hroot : find? tree root ≠ none) :
    ∃ files, Rooted tree root files ∧ discover (find? tree) root = .ok (files.map Prod.fst)
      ∧ ∀ file ∈ files, find? tree file.1 = some (.file file.2) := by
  obtain ⟨there, hthere⟩ := Option.ne_none_iff_exists'.mp hroot
  unfold discover
  rw [hthere]
  cases there with
  | file contents =>
    refine ⟨[(root, contents)], .inl ⟨contents, hthere, rfl⟩, rfl, fun file hfile => ?_⟩
    rw [List.mem_singleton.mp hfile]
    exact hthere
  | link target => exact absurd rfl ((walks_of_find? hthere).ne_link target)
  | directory entries =>
    have hentries := find?_sound hsound hthere
    obtain ⟨found, hlists, hmap⟩ := manifestsBelow_lists hentries
    refine ⟨_, .inr ⟨entries, found, hthere, hlists, rfl⟩, ?_, fun file hfile => ?_⟩
    · show Except.ok ((manifestsBelow entries).map (pathOf root)) = _
      rw [← hmap, List.map_map, List.map_map]
      rfl
    · obtain ⟨entry, hentry, rfl⟩ := List.mem_map.mp hfile
      exact find?_pathOf hsound hthere ((hlists.mem_iff _ _).mp hentry).1

/-- **What loading all roots comes to.** -/
theorem loadAll_loaded {tree : Entries} (hsound : Sound (.directory tree)) {roots : List Text}
    (hroots : ∀ root ∈ roots, find? tree root ≠ none) :
    ∃ files, List.Forall₂ (Rooted tree) roots files
      ∧ Loaded files.flatten (loadAll (find? tree) roots) := by
  induction roots with
  | nil => exact ⟨[], .nil, .nil⟩
  | cons root roots ih =>
    obtain ⟨hroot, hroots⟩ := List.forall_mem_cons.mp hroots
    obtain ⟨first, hrooted, hdiscover, hfiles⟩ := exists_rooted hsound hroot
    obtain ⟨others, hothers, hloaded⟩ := ih hroots
    refine ⟨first :: others, .cons hrooted hothers, ?_⟩
    show Loaded (first ++ others.flatten)
      (do let suites ← loadPaths (find? tree) (← discover (find? tree) root)
          return suites ++ (← loadAll (find? tree) roots))
    rw [hdiscover]
    exact (loadPaths_loaded hfiles).append hloaded

/-! ## §5. The order of entries is not seen. -/

section Orders

variable {tree tree' : Entries}

/-- A root is discovered alike. -/
theorem discover_reordered (hsame : Reordered tree tree') (hsound : Sound (.directory tree))
    (root : Text) : discover (find? tree') root = discover (find? tree) root := by
  unfold discover
  cases hthere : find? tree root with
  | none => rw [find?_eq_none_of_reordered hsame hsound hthere]
  | some there =>
    obtain ⟨there', hthere', hakin⟩ := find?_reordered hsame hsound hthere
    rw [hthere']
    cases hakin with
    | refl => rfl
    | directory hinner =>
      show Except.ok _ = Except.ok _
      rw [manifestsBelow_reordered hinner (find?_sound hsound hthere)]

/-- A file has the same contents. -/
theorem contents?_reordered (hsame : Reordered tree tree') (hsound : Sound (.directory tree))
    (path : Text) : contents? (find? tree') path = contents? (find? tree) path := by
  unfold contents?
  cases hthere : find? tree path with
  | none => rw [find?_eq_none_of_reordered hsame hsound hthere]
  | some there =>
    obtain ⟨there', hthere', hakin⟩ := find?_reordered hsame hsound hthere
    rw [hthere']
    cases hakin <;> rfl

theorem loadPaths_reordered (hsame : Reordered tree tree') (hsound : Sound (.directory tree))
    (paths : List Text) : loadPaths (find? tree') paths = loadPaths (find? tree) paths := by
  induction paths with
  | nil => rfl
  | cons path paths ih =>
    unfold loadPaths
    rw [ih, contents?_reordered hsame hsound]

theorem loadAll_reordered (hsame : Reordered tree tree') (hsound : Sound (.directory tree))
    (roots : List Text) : loadAll (find? tree') roots = loadAll (find? tree) roots := by
  induction roots with
  | nil => rfl
  | cons root roots ih =>
    unfold loadAll
    rw [ih, discover_reordered hsame hsound]
    simp only [loadPaths_reordered hsame hsound]

end Orders

/-- **Discovery and loading do not depend on the order of entries.**  Below a
directory, the manifests are found, each of them once and nothing else, in strictly
increasing order of their paths.  The roots are loaded in turn, and of each root its
files in this order: either all of them are, or loading ends with the fault of the
first one that cannot be loaded.  In another listing order the same is found and the
same is loaded. -/
theorem load_order_unseen (tree tree' : Entries) (hsound : Sound (.directory tree))
    (hsame : Reordered tree tree') :
    (∀ root entries, find? tree root = some (.directory entries) →
      ∃ found, Lists entries found
        ∧ discover (find? tree) root = .ok (found.map fun entry => pathOf root entry.1)
        ∧ (found.map fun entry => parts (pathOf root entry.1)).Pairwise PathBefore)
      ∧ (∀ roots, (∀ root ∈ roots, find? tree root ≠ none) →
        ∃ files, List.Forall₂ (Rooted tree) roots files
          ∧ Loaded files.flatten (loadAll (find? tree) roots))
      ∧ (∀ root, discover (find? tree') root = discover (find? tree) root)
      ∧ ∀ roots, loadAll (find? tree') roots = loadAll (find? tree) roots := by
  refine ⟨fun root entries hroot => ?_, fun roots hroots => loadAll_loaded hsound hroots,
    discover_reordered hsame hsound, loadAll_reordered hsame hsound⟩
  have hentries := find?_sound hsound hroot
  obtain ⟨found, hlists, hmap⟩ := manifestsBelow_lists hentries
  refine ⟨found, hlists, ?_, ?_⟩
  · unfold discover
    rw [hroot]
    show Except.ok ((manifestsBelow entries).map (pathOf root)) = _
    rw [← hmap, List.map_map]
    rfl
  · -- All paths begin with the root, so the names below it decide.
    refine List.pairwise_map.mpr ((List.pairwise_map.mp hlists.sorted).imp_of_mem ?_)
    intro a b ha hb hbefore
    have hparts : ∀ entry ∈ found, parts (pathOf root entry.1) = parts root ++ entry.1 := by
      intro entry hentry
      have hleads := ((hlists.mem_iff _ _).mp hentry).1
      refine parts_pathOf ?_ (hleads.isName hentries)
      intro hnil
      rw [hnil] at hleads
      exact absurd hleads nofun
    rw [hparts a ha, hparts b hb]
    exact List.Lex.append_left _ hbefore _

/-- A directory and a file whose names start alike, and a file that is no text. -/
def sampleTree : Entries :=
  [("b.json", .file []), ("a.yaml", .file [0xFF]),
    ("a", .directory [("y.txt", .file []), (".yml", .file []), ("x.yml", .file [])])]

/-- The same entries in another order. -/
def shuffledTree : Entries :=
  [("a", .directory [(".yml", .file []), ("y.txt", .file []), ("x.yml", .file [])]),
    ("b.json", .file []), ("a.yaml", .file [0xFF])]

theorem sampleTree_sound : Sound (.directory sampleTree) := by
  have hfile : ∀ contents, Sound (.file contents) := .file
  have hinner : Sound (.directory
      [("y.txt", .file []), (".yml", .file []), ("x.yml", .file [])]) :=
    .directory (by decide) (by decide) (by simp only [List.forall_mem_cons, hfile]; simp)
  refine .directory (by decide) (by decide) ?_
  simp only [sampleTree, List.forall_mem_cons, hfile, hinner]
  simp

theorem sampleTree_shuffled : Reordered sampleTree shuffledTree := by
  -- The directory goes to the front, and then its own entries change places.
  have hback : Reordered sampleTree _ := .entry _ _ (.swap _ _ [])
  have hfront := hback.trans (.swap _ _ _)
  exact hfront.trans (.directory _ (.swap _ _ _) (.refl _))

/-- In either order, the directory comes first and the fault is that of the file that
comes next. -/
theorem load_order_unseen_sample :
    Sound (.directory sampleTree) ∧ Reordered sampleTree shuffledTree
      ∧ discover (find? shuffledTree) "." = .ok ["./a/x.yml", "./a.yaml", "./b.json"]
      ∧ loadAll (find? shuffledTree) ["b.json", "."] = .error (.read "./a.yaml")
      ∧ (∃ found, Lists sampleTree found
        ∧ discover (find? sampleTree) "." = .ok (found.map fun entry => pathOf "." entry.1)
        ∧ (found.map fun entry => parts (pathOf "." entry.1)).Pairwise PathBefore)
      ∧ ∃ files, List.Forall₂ (Rooted sampleTree) ["b.json", "."] files
        ∧ Loaded files.flatten (loadAll (find? sampleTree) ["b.json", "."]) := by
  obtain ⟨hfound, hloaded, hdiscover, hload⟩ :=
    load_order_unseen sampleTree shuffledTree sampleTree_sound sampleTree_shuffled
  have hroot : find? sampleTree "." = some (.directory sampleTree) := by cbv
  have hfile : find? sampleTree "b.json" = some (.file []) := by cbv
  have hdiscovered : discover (find? sampleTree) "."
      = .ok ["./a/x.yml", "./a.yaml", "./b.json"] := by cbv
  have hfault : loadAll (find? sampleTree) ["b.json", "."] = .error (.read "./a.yaml") := by cbv
  refine ⟨sampleTree_sound, sampleTree_shuffled, (hdiscover _).trans hdiscovered,
    (hload _).trans hfault, hfound _ _ hroot, hloaded _ ?_⟩
  simp only [List.forall_mem_cons, hroot, hfile]
  simp

end Rehearsal.Discovery
