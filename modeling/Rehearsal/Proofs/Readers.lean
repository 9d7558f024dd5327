/-
  Rehearsal.Proofs.Readers
  ──────────────────────────────────────
  **What a reader can give.**

  `Gives` leaves out how many aliases were followed: it says what a reading can end
  with.  Every reader has one lemma that tells its result from the document alone,
  where `resolve` puts the named node in the place of an alias.

    • `Gives.bind`, `Gives.mapM` — a reading is taken apart step by step,
    • `fields_gives`, `Fields.get?_gives`, `under_eq_of_count` — a mapping by name,
    • `value_gives` — data of any shape is what its node stands for (`StandsFor`),
    • `read?_eq_some` — a document that is read names no alias by an anchor.
-/
import Mathlib.Data.List.Forall2
import Rehearsal.Yaml.Document

namespace Rehearsal.Yaml

variable {α β : Type} {doc : Document}

/-! ## §1. The nodes of a document by what they hold. -/

namespace Document

/-- The node that an alias names; any other node is itself. -/
def resolve (doc : Document) : Node → Node
  | .alias a => (doc.anchored.lookup a).getD (.alias a)
  | n => n

/-- The text of a scalar. -/
def textAt (doc : Document) (n : Node) : Text :=
  match doc.resolve n with
  | .scalar _ _ t => t
  | _ => []

/-- The members of a sequence. -/
def membersAt (doc : Document) (n : Node) : List Node :=
  match doc.resolve n with
  | .sequence _ items => items
  | _ => []

/-- The entries of a mapping. -/
def entriesAt (doc : Document) (n : Node) : List (Text × Node) :=
  match doc.resolve n with
  | .mapping _ entries => entries.map fun e => (doc.textAt e.1, e.2)
  | _ => []

/-- What stands under a name in a mapping. -/
def under (doc : Document) (name : Text) (n : Node) : List Node :=
  ((doc.entriesAt n).filter fun e => e.1 = name).map (·.2)

/-- No alias carries an anchor. -/
def Grounded (doc : Document) : Prop :=
  ∀ a n, doc.anchored.lookup a = some n → ∀ b, n ≠ .alias b

theorem ofRoot_grounded (root : Node) : (ofRoot root).Grounded := by
  intro a n h b hn
  obtain ⟨before, behind, hsplit, -⟩ := List.lookup_eq_some_iff.mp h
  have hmem : (a, n) ∈ (ofRoot root).anchored := by
    rw [hsplit]
    exact List.mem_append_right _ List.mem_cons_self
  simp only [ofRoot, List.mem_reverse, List.mem_filterMap, Option.map_eq_some_iff] at hmem
  obtain ⟨m, -, anchor, hanchor, hpair⟩ := hmem
  obtain ⟨-, rfl⟩ := Prod.mk.inj hpair
  subst hn
  exact absurd hanchor (by simp [Node.mark])

/-- Behind an alias there is no further one. -/
theorem Grounded.resolve_resolve (hdoc : doc.Grounded) :
    ∀ n, doc.resolve (doc.resolve n) = doc.resolve n
  | .alias a => by
      cases h : doc.anchored.lookup a with
      | none => simp [resolve, h]
      | some m =>
        have hm : doc.resolve (.alias a) = m := by simp [resolve, h]
        rw [hm]
        rcases m with _ | _ | _ | b
        · rfl
        · rfl
        · rfl
        · exact absurd rfl (hdoc a _ h b)
  | .scalar _ _ _ => rfl
  | .sequence _ _ => rfl
  | .mapping _ _ => rfl

theorem Grounded.membersAt_resolve (hdoc : doc.Grounded) (n : Node) :
    doc.membersAt (doc.resolve n) = doc.membersAt n := by
  unfold membersAt
  rw [hdoc.resolve_resolve]

theorem membersAt_of_scalar {n : Node} {mark : Mark} {style : Style} {t : Text}
    (h : doc.resolve n = .scalar mark style t) : doc.membersAt n = [] := by
  unfold membersAt
  rw [h]

end Document

/-! ## §2. What a reading can end with. -/

/-- The reading can end well with the result. -/
def Gives (doc : Document) (m : Reading α) (a : α) : Prop :=
  ∃ jumps jumps', (m.run doc).run jumps = some (a, jumps')

theorem gives_pure_iff {a b : α} : Gives doc (pure a) b ↔ b = a := by
  constructor
  · rintro ⟨_, _, h⟩
    exact (congrArg Prod.fst (Option.some.inj h)).symm
  · rintro rfl
    exact ⟨0, 0, rfl⟩

theorem not_gives_failure {a : α} : ¬ Gives doc failure a := by
  rintro ⟨_, _, h⟩
  cases h

theorem gives_read {d : Document} (h : Gives doc read d) : d = doc := by
  obtain ⟨_, _, h⟩ := h
  exact (congrArg Prod.fst (Option.some.inj h)).symm

theorem gives_option {o : Option α} {a : α} (h : Gives doc (o : Reading α) a) : o = some a := by
  obtain ⟨_, _, h⟩ := h
  cases o with
  | none => cases h
  | some b => exact congrArg some (congrArg Prod.fst (Option.some.inj h))

/-- The first part of a reading gives something, and the second part goes on with
it. -/
theorem Gives.bind {m : Reading α} {f : α → Reading β} {b : β} (h : Gives doc (m >>= f) b) :
    ∃ a, Gives doc m a ∧ Gives doc (f a) b := by
  obtain ⟨jumps, jumps', h⟩ := h
  rw [ReaderT.run_bind, StateT.run_bind] at h
  obtain ⟨⟨a, between⟩, ha, hb⟩ := Option.bind_eq_some_iff.mp h
  exact ⟨a, ⟨jumps, between, ha⟩, ⟨between, jumps', hb⟩⟩

theorem Gives.mapM {f : α → Reading β} : ∀ {as : List α} {bs : List β},
    Gives doc (as.mapM f) bs → List.Forall₂ (fun a b => Gives doc (f a) b) as bs
  | [], bs, h => by
      rw [List.mapM_nil] at h
      obtain rfl := gives_pure_iff.mp h
      exact .nil
  | a :: as, bs, h => by
      rw [List.mapM_cons] at h
      obtain ⟨b, hb, h⟩ := h.bind
      obtain ⟨rest, hrest, h⟩ := h.bind
      obtain rfl := gives_pure_iff.mp h
      exact .cons hb hrest.mapM

namespace Reader

theorem follow_gives : ∀ {n n' : Node}, Gives doc (follow n) n' → n' = doc.resolve n
  | .alias a, n', h => by
      obtain ⟨d, hd, h⟩ := h.bind
      obtain rfl := gives_read hd
      obtain ⟨jumps, -, h⟩ := h.bind
      dsimp only at h
      -- Either too many aliases were followed, or the anchor is looked up.
      split at h
      · obtain ⟨_, hfail, -⟩ := h.bind
        exact absurd hfail not_gives_failure
      · obtain ⟨_, -, h⟩ := h.bind
        split at h
        · rename_i m hm
          rw [gives_pure_iff.mp h]
          simp [Document.resolve, hm]
        · exact absurd h not_gives_failure
  | .scalar _ _ _, _, h => gives_pure_iff.mp h
  | .sequence _ _, _, h => gives_pure_iff.mp h
  | .mapping _ _, _, h => gives_pure_iff.mp h

theorem text_gives {depth : Nat} {n : Node} {t : Text} (h : Gives doc (text depth n) t) :
    doc.textAt n = t := by
  obtain ⟨n', hn, h⟩ := h.bind
  obtain rfl := follow_gives hn
  split at h
  · rename_i hscalar
    unfold Document.textAt
    rw [hscalar]
    exact (gives_pure_iff.mp h).symm
  · exact absurd h not_gives_failure

/-- What may be missing is missing under a plain scalar only. -/
theorem optional_gives {r : Reader α} {depth : Nat} {n : Node} {o : Option α}
    (h : Gives doc (optional r depth n) o) :
    (o = none ∧ ∃ mark t, doc.resolve n = .scalar mark .plain t)
      ∨ ∃ a, o = some a ∧ Gives doc (r depth (doc.resolve n)) a := by
  obtain ⟨n', hn, h⟩ := h.bind
  obtain rfl := follow_gives hn
  obtain ⟨given, hgiven, h⟩ := h.bind
  split at h
  · obtain ⟨a, ha, h⟩ := h.bind
    exact .inr ⟨a, gives_pure_iff.mp h, ha⟩
  · rename_i hnot
    refine .inl ⟨gives_pure_iff.mp h, ?_⟩
    -- Every node that is no plain scalar is given.
    unfold isGiven at hgiven
    split at hgiven
    · rename_i mark t hscalar
      exact ⟨mark, t, hscalar⟩
    · exact absurd (gives_pure_iff.mp hgiven) hnot

theorem list_gives {r : Reader α} {depth : Nat} {n : Node} {as : List α}
    (h : Gives doc (list r depth n) as) :
    ∃ depth', List.Forall₂ (fun m a => Gives doc (r depth' m) a) (doc.membersAt n) as := by
  obtain ⟨n', hn, h⟩ := h.bind
  obtain rfl := follow_gives hn
  split at h
  · rename_i mark items depth' hsequence _
    unfold Document.membersAt
    rw [hsequence]
    exact ⟨depth', h.mapM⟩
  · rename_i mark hscalar _
    rw [Document.membersAt_of_scalar hscalar, gives_pure_iff.mp h]
    exact ⟨0, .nil⟩
  · exact absurd h not_gives_failure

/-! ## §3. Mappings by name. -/

theorem fields_gives {depth : Nat} {n : Node} {f : Fields} (h : Gives doc (fields depth n) f) :
    f.entries = doc.entriesAt n := by
  obtain ⟨n', hn, h⟩ := h.bind
  obtain rfl := follow_gives hn
  split at h
  · rename_i mark entries depth' hmapping _
    obtain ⟨named, hnamed, h⟩ := h.bind
    unfold Document.entriesAt
    rw [hmapping, gives_pure_iff.mp h]
    have hall : List.Forall₂ (fun (e : Node × Node) p => p = (doc.textAt e.1, e.2))
        entries named := by
      refine hnamed.mapM.imp fun e p hp => ?_
      obtain ⟨key, hkey, hp⟩ := hp.bind
      rw [gives_pure_iff.mp hp, text_gives hkey]
    rw [← List.forall₂_eq_eq_eq, List.forall₂_map_right_iff]
    exact hall.flip
  · rename_i mark hscalar _
    unfold Document.entriesAt
    rw [hscalar, gives_pure_iff.mp h]
  · exact absurd h not_gives_failure

namespace Fields

theorem closed_gives {f : Fields} {names : List Text} {u : Unit}
    (h : Gives doc (f.closed names) u) : ∀ name ∈ names, f.count name ≤ 1 := by
  unfold closed at h
  split at h
  · rename_i hclosed
    obtain ⟨-, hcount⟩ := Bool.and_eq_true_iff.mp hclosed
    intro name hname
    exact of_decide_eq_true (List.all_eq_true.mp hcount name hname)
  · exact absurd h not_gives_failure

theorem get?_gives {f : Fields} {name : Text} {r : Reader α} {o : Option α}
    (h : Gives doc (f.get? name r) o) :
    (o = none ∧ f.entries.lookup name = none)
      ∨ ∃ n a, o = some a ∧ f.entries.lookup name = some n ∧ Gives doc (r f.depth n) a := by
  unfold get? at h
  split at h
  · rename_i n hn
    obtain ⟨a, ha, h⟩ := h.bind
    exact .inr ⟨n, a, gives_pure_iff.mp h, hn, ha⟩
  · rename_i hnone
    exact .inl ⟨gives_pure_iff.mp h, hnone⟩

theorem getD_gives {f : Fields} {name : Text} {r : Reader α} {default a : α}
    (h : Gives doc (f.getD name r default) a) :
    (a = default ∧ f.entries.lookup name = none)
      ∨ ∃ n, f.entries.lookup name = some n ∧ Gives doc (r f.depth n) a := by
  obtain ⟨o, ho, h⟩ := h.bind
  obtain rfl := gives_pure_iff.mp h
  rcases get?_gives ho with ⟨rfl, hnone⟩ | ⟨n, a, rfl, hn, ha⟩
  · exact .inl ⟨rfl, hnone⟩
  · exact .inr ⟨n, hn, ha⟩

end Fields

theorem filter_of_lookup_eq_none {name : Text} {entries : List (Text × Node)}
    (h : entries.lookup name = none) : (entries.filter fun e => e.1 = name) = [] := by
  rw [List.filter_eq_nil_iff]
  intro e he heq
  have hne := List.lookup_eq_none_iff.mp h e he
  exact absurd (of_decide_eq_true heq).symm (by simpa using hne)

/-- The found entry is the only one of its name if there is at most one. -/
theorem filter_of_lookup_eq_some {name : Text} {entries : List (Text × Node)} {n : Node}
    (h : entries.lookup name = some n)
    (hcount : (entries.filter fun e => e.1 = name).length ≤ 1) :
    (entries.filter fun e => e.1 = name) = [(name, n)] := by
  obtain ⟨before, behind, rfl, -⟩ := List.lookup_eq_some_iff.mp h
  have hmem : (name, n) ∈ (before ++ (name, n) :: behind).filter fun e => e.1 = name := by
    simp
  obtain ⟨e, he⟩ := List.length_eq_one_iff.mp
    (Nat.le_antisymm hcount (List.length_pos_of_mem hmem))
  rw [he] at hmem ⊢
  rw [List.mem_singleton.mp hmem]

/-- A name that occurs at most once stands for the node that is found. -/
theorem under_eq_of_count {f : Fields} {name : Text} {n : Node}
    (hentries : f.entries = doc.entriesAt n) (hcount : f.count name ≤ 1) :
    doc.under name n = (f.entries.lookup name).toList := by
  unfold Document.under
  rw [← hentries]
  cases h : f.entries.lookup name with
  | none => rw [filter_of_lookup_eq_none h]; rfl
  | some m => rw [filter_of_lookup_eq_some h hcount]; rfl

/-! ## §4. Data of any shape. -/

/-- A value that can be written as a scalar with the text: text is taken as it is
written, and collections are no scalars. -/
def AsWritten (t : Text) : Value → Prop
  | .text t' => t' = t
  | .list _ | .map _ => False
  | _ => True

theorem integer?_asWritten {t t' : Text} {v : Value} (h : integer? t = some (some v)) :
    AsWritten t' v := by
  unfold integer? at h
  split at h
  all_goals
    obtain ⟨n, -, h⟩ := Option.bind_eq_some_iff.mp h
    split at h
    · obtain rfl := Option.some.inj (Option.some.inj h)
      trivial
    · split at h
      · cases h
      · cases h

theorem ofPlain?_asWritten {t : Text} {v : Value} (h : Value.ofPlain? t = some v) :
    AsWritten t v := by
  unfold Value.ofPlain? at h
  split at h
  · obtain rfl := Option.some.inj h
    trivial
  · split at h
    · obtain rfl := Option.some.inj h
      trivial
    · split at h
      · rename_i hinteger
        exact integer?_asWritten (hinteger.trans (congrArg some h))
      · have hreal (real : Bool) : AsWritten t (if real then .real else .text t) := by
          cases real with
          | true => trivial
          | false => rfl
        obtain rfl := Option.some.inj h
        exact hreal _

theorem ofScalar?_asWritten {tag : Option Text} {style : Style} {t : Text} {v : Value}
    (h : Value.ofScalar? tag style t = some v) : AsWritten t v := by
  unfold Value.ofScalar? at h
  split at h
  · split at h
    · exact ofPlain?_asWritten h
    · obtain rfl := Option.some.inj h
      rfl
  · split at h
    · cases h
    · split at h
      · obtain ⟨b, -, rfl⟩ := Option.map_eq_some_iff.mp h
        trivial
      · split at h
        · exact integer?_asWritten (Option.join_eq_some_iff.mp h)
        · split at h
          · split at h
            · obtain rfl := Option.some.inj h
              trivial
            · cases h
          · split at h
            · split at h
              · obtain rfl := Option.some.inj h
                trivial
              · cases h
            · obtain rfl := Option.some.inj h
              rfl

/-- What a node stands for, however deep collections may be nested. -/
inductive StandsFor (doc : Document) : Node → Value → Prop
  | scalar {n : Node} {mark : Mark} {style : Style} {t : Text} {v : Value}
      (hn : doc.resolve n = .scalar mark style t)
      (hv : Value.ofScalar? mark.tag style t = some v) : StandsFor doc n v
  | list {n : Node} {mark : Mark} {items : List Node} {vs : List Value}
      (hn : doc.resolve n = .sequence mark items)
      (hvs : List.Forall₂ (StandsFor doc) items vs) : StandsFor doc n (.list vs)
  | map {n : Node} {mark : Mark} {entries : List (Node × Node)} {vs : List (Value × Value)}
      (hn : doc.resolve n = .mapping mark entries)
      (hkeys : List.Forall₂ (fun e v => StandsFor doc e.1 v.1) entries vs)
      (hvalues : List.Forall₂ (fun e v => StandsFor doc e.2 v.2) entries vs) :
      StandsFor doc n (.map vs)

theorem value_gives : ∀ {depth : Nat} {n : Node} {v : Value},
    Gives doc (value depth n) v → StandsFor doc n v
  | 0, n, v, h => by
      unfold value at h
      obtain ⟨n', hn, h⟩ := h.bind
      obtain rfl := follow_gives hn
      split at h
      · rename_i hscalar
        exact .scalar hscalar (gives_option h)
      · exact absurd h not_gives_failure
  | depth + 1, n, v, h => by
      unfold value at h
      obtain ⟨n', hn, h⟩ := h.bind
      obtain rfl := follow_gives hn
      split at h
      · rename_i hscalar
        exact .scalar hscalar (gives_option h)
      · rename_i mark items hsequence
        split at h
        · exact absurd h not_gives_failure
        · obtain ⟨vs, hvs, h⟩ := h.bind
          obtain rfl := gives_pure_iff.mp h
          exact .list hsequence (hvs.mapM.imp fun _ _ hv => value_gives hv)
      · rename_i mark entries hmapping
        split at h
        · exact absurd h not_gives_failure
        · obtain ⟨vs, hvs, h⟩ := h.bind
          obtain rfl := gives_pure_iff.mp h
          refine .map hmapping (hvs.mapM.imp fun e p hp => ?_) (hvs.mapM.imp fun e p hp => ?_)
          · obtain ⟨key, hkey, hp⟩ := hp.bind
            obtain ⟨v, -, hp⟩ := hp.bind
            obtain rfl := gives_pure_iff.mp hp
            exact value_gives hkey
          · obtain ⟨key, -, hp⟩ := hp.bind
            obtain ⟨v, hv, hp⟩ := hp.bind
            obtain rfl := gives_pure_iff.mp hp
            exact value_gives hv
      · exact absurd h not_gives_failure

end Reader

/-- A text that is read is a document, and it is read from its root. -/
theorem read?_eq_some {r : Reader α} {t : Text} {a : α} (h : read? r t = some a) :
    ∃ doc, Document.ofText? t = some doc ∧ doc.Grounded ∧ Gives doc (r maxDepth doc.root) a := by
  obtain ⟨doc, hdoc, h⟩ := Option.bind_eq_some_iff.mp h
  obtain ⟨⟨a', jumps⟩, hread, h⟩ := Option.bind_eq_some_iff.mp h
  obtain rfl := Option.some.inj h
  refine ⟨doc, hdoc, ?_, 0, jumps, hread⟩
  obtain ⟨tokens, -, hdoc⟩ := Option.bind_eq_some_iff.mp hdoc
  obtain ⟨⟨root, cursor⟩, -, hdoc⟩ := Option.bind_eq_some_iff.mp hdoc
  obtain rfl := Option.some.inj hdoc
  exact Document.ofRoot_grounded _

end Rehearsal.Yaml
