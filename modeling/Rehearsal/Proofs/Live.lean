/-
  Rehearsal.Proofs.Live
  ──────────────────────────────────────
  **The screen at the end of a live run.**

  A live run and a still run of the same suites go through the same points, with
  stages beside each other.  So at the end of the live run every line of the still
  report stands at the start of its row; and the rows are these lines, up to
  trailing spaces, exactly if no header was put over progress text that its first
  line does not cover while it goes on behind this line.

    • `Rehearser.told_recorded` — what is told is recorded,
    • `Rehearser.advance_abreast` — one step of both runs,
    • `Rehearser.rehearse_screen_iff` — the screen at the end.
-/
import Rehearsal.Proofs.Ledger
import Rehearsal.Proofs.Screen

namespace Rehearsal

variable {σ α : Type}

open Text (trimmed)

/-! ## §1. What is told is recorded. -/

/-- Behind each outcome that is told, the same outcome is entered. -/
inductive Paired : List Task → Prop
  | nil : Paired []
  | recording (entry : Record) {rest : List Task} (more : Paired rest) :
      Paired (.tell entry :: .enter entry :: rest)
  | other {t : Task} {rest : List Task} (ht : ∀ entry, t ≠ .tell entry) (more : Paired rest) :
      Paired (t :: rest)

namespace Paired

theorem append {a b : List Task} (ha : Paired a) (hb : Paired b) : Paired (a ++ b) := by
  induction ha with
  | nil => exact hb
  | recording entry more ih => exact .recording entry ih
  | other ht more ih => exact .other ht ih

theorem map {t : α → Task} (ht : ∀ a entry, t a ≠ .tell entry) (as : List α) :
    Paired (as.map t) := by
  induction as with
  | nil => exact .nil
  | cons a as ih => exact .other (ht a) ih

theorem tasks (p : Preparation) : Paired p.tasks := .other nofun (.map nofun _)

end Paired

/-- A task leaves no outcome to be told without being entered. -/
theorem Task.perform_paired (r : Rehearser σ) (x : Examiner σ) (t : Task) :
    (t.perform r x).Yields Paired := by
  cases t with
  | suite s => exact .bind fun before => .pure ((Paired.map nofun _).append (.other nofun .nil))
  | groups s before =>
    refine .bind fun after => .pure ?_
    split
    · exact .map nofun _
    · exact .nil
  | group p g =>
    exact .pure (.other nofun ((Paired.tasks p).append ((Paired.map nofun _).append (.map nofun _))))
  | progress => exact .bind fun _ => .pure .nil
  | reload => exact .bind fun _ => .pure .nil
  | replay expression => exact .bind fun _ => .pure .nil
  | dialogue steps =>
    cases steps with
    | nil => exact .pure .nil
    | cons step rest => exact .pure (.other nofun .nil)
  | check step rest inquiry =>
    cases inquiry with
    | done result =>
      have hrest : ∀ goesOn : Bool, Paired (if goesOn then [dialogue rest] else []) := by
        intro goesOn
        cases goesOn with
        | true => exact .other nofun .nil
        | false => exact .nil
      exact .pure (.recording _ (hrest _))
    | ask expression next => exact .bind fun _ => .pure (.other nofun .nil)
  | law p l => exact .pure ((Paired.tasks p).append (.other nofun .nil))
  | examine l => exact .bind fun _ => .pure (.recording _ .nil)
  | tell entry => exact .bind fun _ => .pure .nil
  | enter entry => exact .bind fun _ => .pure .nil
  | close => exact .bind fun _ => .pure .nil

namespace Rehearser

variable (r : Rehearser σ) (x : Examiner σ)

theorem advance_paired (point : Point σ) (h : Paired point.todo) :
    Paired (r.advance x point).todo := by
  obtain ⟨todo, fault, stage⟩ := point
  cases todo with
  | nil => exact h
  | cons t rest =>
    have hrest : Paired rest := by
      cases h with
      | recording entry more => exact .other nofun more
      | other ht more => exact more
    have hyields := t.perform_paired r x stage
    show Paired (Point.behind (t.perform r x stage) (· ++ rest)).todo
    cases hact : t.perform r x stage with
    | mk result after =>
      cases result with
      | error fault => exact .nil
      | ok more => exact (hyields more (by rw [hact])).append hrest

/-- No record is ever lost. -/
theorem after_records (k : Nat) (point : Point σ) :
    point.stage.records <+: (r.after x k point).stage.records := by
  induction k with
  | zero => exact List.prefix_refl _
  | succ k ih =>
    refine ih.trans ?_
    show _ <+: (r.advance x (r.after x k point)).stage.records
    generalize r.after x k point = point
    obtain ⟨todo, fault, stage⟩ := point
    cases todo with
    | nil => exact List.prefix_refl _
    | cons t rest =>
      show stage.records <+: (Point.behind (t.perform r x stage) (· ++ rest)).stage.records
      rw [Point.behind_stage]
      by_cases henter : ∃ entry, t = .enter entry
      · obtain ⟨entry, rfl⟩ := henter
        exact List.prefix_append _ _
      · have h := (t.perform_uncounted r x fun entry heq => henter ⟨entry, heq⟩) stage
        exact h.1.2 ▸ List.prefix_refl _

/-- **What is told is recorded:** on a console that takes everything, two steps
later. -/
theorem told_recorded {point : Point σ} (hpaired : Paired point.todo)
    (hroom : point.stage.console.room = none) {entry : Record} {rest : List Task}
    (htodo : point.todo = .tell entry :: rest) :
    entry ∈ (r.after x 2 point).stage.records := by
  obtain ⟨todo, fault, stage⟩ := point
  obtain rfl : todo = _ := htodo
  cases hpaired with
  | other ht more => exact absurd rfl (ht entry)
  | @recording _ more _ =>
    have hwrites := Frame.unlimited_writes.tell entry.place entry.expression entry.outcome stage
    have hfaults := Frame.unmoved_writes.tell entry.place entry.expression entry.outcome stage
    show entry ∈ (r.advance x (.behind ((Task.tell entry).perform r x stage)
      (· ++ .enter entry :: more))).stage.records
    rw [Task.perform_tell]
    cases hact : Report.tell entry.place entry.expression entry.outcome stage with
    | mk result after =>
      rw [hact] at hfaults hwrites
      cases result with
      | error fault =>
        -- The console takes all of the text.
        have hfault : fault = .report := hfaults.2 fault rfl
        exact absurd hfault (hwrites.2 fault rfl hroom)
      | ok u => exact List.mem_append_right _ (List.mem_singleton.mpr rfl)

end Rehearser

/-! ## §2. Two runs beside each other. -/

/-- The same is left to do, on stages beside each other. -/
structure Point.Abreast (live still : Point σ) : Prop where
  todo : live.todo = still.todo
  fault : live.fault = still.fault
  stage : Beside live.stage still.stage

/-- If a problem is to be told next, its header covers the progress text. -/
def Point.Clear (point : Point σ) : Prop :=
  ∀ entry rest, point.todo = .tell entry :: rest → entry.Clears point.stage.console.pending

/-- **Any task but telling a problem does the same on both stages.** -/
theorem Task.perform_alike (r : Rehearser σ) (x : Examiner σ) (t : Task)
    (h : ∀ entry, t ≠ .tell entry) : Alike (t.perform r x) := by
  have family : Task.Family r x (fun {α} (act : Act σ α) => Alike act) := {
    pure := .pure
    bind := .bind
    tally := .tally
    reload := .reload r.session
    ask := .ask r.session
    check := .check x
    showProgress := .showProgress
    showTally := .showTally }
  exact family.perform t (fun entry heq => absurd heq (h entry)) fun entry _ => .enter entry

namespace Rehearser

variable (r : Rehearser σ) (x : Examiner σ)

/-- **One step of both runs:** the rows stay the same unless a problem is told
whose header does not cover the progress text. -/
theorem advance_abreast {live still : Point σ} (h : live.Abreast still)
    (hplain : ∀ entry rest, live.todo = .tell entry :: rest → entry.Plain) :
    (r.advance x live).Abreast (r.advance x still)
      ∧ (SameRows (r.advance x live).stage (r.advance x still).stage
        ↔ SameRows live.stage still.stage ∧ live.Clear) := by
  obtain ⟨todo, fault, live⟩ := live
  obtain ⟨todo', fault', still⟩ := still
  obtain ⟨htodo, hfault, hstage⟩ := h
  obtain rfl : todo = todo' := htodo
  cases todo with
  | nil =>
    have hclear : (⟨[], fault, live⟩ : Point σ).Clear := fun entry rest heq => by cases heq
    exact ⟨⟨rfl, hfault, hstage⟩, (and_iff_left hclear).symm⟩
  | cons t rest =>
    -- What both acts come to decides what is left to do.
    have behind : ∀ {a b : Except RunFault (List Task) × Stage σ}, a.1 = b.1 → Beside a.2 b.2 →
        (Point.behind a (· ++ rest)).Abreast (Point.behind b (· ++ rest)) := by
      rintro ⟨result, live⟩ ⟨result', still⟩ hresult hbeside
      obtain rfl : result = result' := hresult
      cases result <;> exact ⟨rfl, rfl, hbeside⟩
    show (Point.behind (t.perform r x live) _).Abreast (.behind (t.perform r x still) _) ∧ (SameRows
      (Point.behind (t.perform r x live) _).stage (Point.behind (t.perform r x still) _).stage ↔ _)
    rw [Point.behind_stage, Point.behind_stage]
    by_cases htell : ∃ entry, t = .tell entry
    · obtain ⟨entry, rfl⟩ := htell
      obtain ⟨hresult, hbeside, hrows⟩ := hstage.tell (hplain entry rest rfl)
      have hclear : (⟨.tell entry :: rest, fault, live⟩ : Point σ).Clear
          ↔ entry.Clears live.console.pending := by
        constructor
        · exact fun hall => hall entry rest rfl
        · rintro hclears entry' rest' heq
          cases heq
          exact hclears
      rw [Task.perform_tell, Task.perform_tell]
      refine ⟨behind ?_ hbeside, hrows.trans (and_congr_right fun _ => hclear.symm)⟩
      exact congrArg (Except.map fun _ => []) hresult
    · obtain ⟨hresult, hbeside, hrows⟩ :=
        t.perform_alike r x (fun entry heq => htell ⟨entry, heq⟩) live still hstage
      have hclear : (⟨t :: rest, fault, live⟩ : Point σ).Clear := by
        rintro entry rest' heq
        cases heq
        exact absurd ⟨entry, rfl⟩ htell
      exact ⟨behind hresult hbeside, hrows.trans (and_iff_left hclear).symm⟩

/-! ## §3. The whole run. -/

/-- The two runs start beside each other. -/
theorem start_abreast (session : σ) (suites : List Suite) :
    (Point.start session { interactive := true } suites).Abreast (.start session {} suites)
      ∧ SameRows (Point.start session { interactive := true } suites).stage
        (Point.start session {} suites).stage :=
  ⟨⟨rfl, rfl, ⟨rfl, rfl, rfl, rfl, rfl, .fresh [], rfl, fun _ hc => absurd hc List.not_mem_nil,
    .nil⟩⟩, rfl⟩

/-- **Both runs after some steps**, if all that is recorded in the live one is
plain. -/
theorem after_abreast (session : σ) (suites : List Suite)
    (hplain : ∀ k, ∀ entry ∈ (r.after x k
      (.start session { interactive := true } suites)).stage.records, entry.Plain) (k : Nat) :
    (r.after x k (.start session { interactive := true } suites)).Abreast
        (r.after x k (.start session {} suites))
      ∧ (SameRows (r.after x k (.start session { interactive := true } suites)).stage
          (r.after x k (.start session {} suites)).stage
        ↔ ∀ j < k, (r.after x j (.start session { interactive := true } suites)).Clear) := by
  have hpaired : ∀ k, Paired (r.after x k (.start session { interactive := true } suites)).todo :=
    r.after_keeps x (P := fun point => Paired point.todo) (r.advance_paired x)
      ((Paired.map nofun suites).append (.other nofun .nil))
  induction k with
  | zero =>
    obtain ⟨habreast, hsame⟩ := start_abreast session suites
    exact ⟨habreast, fun _ j hj => absurd hj (Nat.not_lt_zero j), fun _ => hsame⟩
  | succ k ih =>
    obtain ⟨habreast, hrows⟩ := ih
    have hroom : (r.after x k (.start session { interactive := true } suites)).stage.console.room
        = none := by rw [habreast.stage.onLive]; rfl
    obtain ⟨habreast', hrows'⟩ := r.advance_abreast x habreast fun entry rest htodo =>
      hplain (k + 2) entry (by
        rw [r.after_add]
        exact r.told_recorded x (hpaired k) hroom htodo)
    refine ⟨habreast', hrows'.trans ?_⟩
    rw [hrows]
    constructor
    · rintro ⟨hbefore, hnow⟩ j hj
      rcases Nat.lt_succ_iff_lt_or_eq.mp hj with hlt | rfl
      · exact hbefore j hlt
      · exact hnow
    · exact fun hall => ⟨fun j hj => hall j (Nat.lt_succ_of_lt hj), hall k (Nat.lt_succ_self k)⟩

/-- Behind its last line, a run that ends well has no progress text on its console,
and the tally is what it comes to. -/
theorem rehearseBy_closed {session : σ} {console : Console} {suites : List Suite} {tally : Tally}
    {after : Stage σ} (h : r.rehearseBy x session console suites = (.ok tally, after)) :
    after.tally = tally ∧ after.console.pending = 0 := by
  obtain ⟨_, mid, -, h⟩ := Act.ok_bind h
  obtain ⟨_, shown, hshow, hlook⟩ := Act.ok_bind h
  obtain ⟨hresult, rfl⟩ := Prod.mk.inj hlook
  -- The final tally is a line, and a line settles at no progress text.
  obtain ⟨_, looked, -, hline⟩ := Act.ok_bind hshow
  obtain ⟨_, written, -, hend⟩ := Act.ok_bind hline
  obtain ⟨_, ended, -, hsettle⟩ := Act.ok_bind hend
  obtain ⟨-, rfl⟩ := Prod.mk.inj hsettle
  exact ⟨Except.ok.inj hresult, rfl⟩

/-- **Both runs at their end.**  If the live run ends well, so does the still one, and
they end beside each other. -/
theorem rehearseBy_beside {session : σ} {suites : List Suite} {tally : Tally} {live : Stage σ}
    (hrun : r.rehearseBy x session { interactive := true } suites = (.ok tally, live))
    (hplain : ∀ entry ∈ live.records, entry.Plain) :
    (∃ tally, (r.rehearseBy x session {} suites).1 = .ok tally)
      ∧ Beside live (r.rehearseBy x session {} suites).2
      ∧ (SameRows live (r.rehearseBy x session {} suites).2
        ↔ ∀ k, (r.after x k (.start session { interactive := true } suites)).Clear) := by
  obtain ⟨n, hover⟩ :=
    (r.rehearse_reached x session { interactive := true } suites).stays (Point.behind_over _)
  rw [hrun] at hover
  have hlast : r.after x n (.start session { interactive := true } suites)
      = .behind (.ok tally, live) fun _ => [] := hover 0
  -- What is recorded at any point is recorded at the end.
  have hrecords : ∀ k, ∀ entry ∈ (r.after x k
      (.start session { interactive := true } suites)).stage.records, entry.Plain := by
    intro k entry hentry
    have hgrown := r.after_records x n (r.after x k (.start session { interactive := true } suites))
    rw [← r.after_add, Nat.add_comm, hover] at hgrown
    exact hplain entry (hgrown.subset hentry)
  obtain ⟨habreast, hrows⟩ := r.after_abreast x session suites hrecords n
  rw [hlast] at habreast hrows
  -- The still run has come to its end as well.
  have hstill : Point.behind (r.rehearseBy x session {} suites) (fun _ => [])
      = r.after x n (.start session {} suites) :=
    (r.rehearse_reached x session {} suites).unique ⟨n, rfl⟩ (Point.behind_over _)
      habreast.todo.symm
  rw [← hstill] at habreast hrows
  have hbeside := habreast.stage
  rw [Point.behind_stage, Point.behind_stage] at hbeside hrows
  refine ⟨?_, hbeside, hrows.trans ⟨fun hall k => ?_, fun hall k _ => hall k⟩⟩
  · have hfault := habreast.fault
    cases hrun' : r.rehearseBy x session {} suites with
    | mk result stage =>
      rw [hrun'] at hfault
      cases result with
      | error fault => cases hfault
      | ok tally' => exact ⟨tally', rfl⟩
  · rcases Nat.lt_or_ge k n with hlt | hge
    · exact hall k hlt
    · -- Behind the last point nothing is told any more.
      rw [← Nat.add_sub_cancel' hge, hover]
      intro entry rest heq
      cases heq

/-- **The screen at the end of a live run.**  A run that ends well, and all of whose
records are plain, ends in the same way on a still console, with the same records.
Every line of the still report stands at the start of its row on the screen of the
live one; and the rows are these lines, up to trailing spaces, exactly if every
problem that was told over progress text had a header that covers it. -/
theorem rehearse_screen_iff (session : σ) (suites : List Suite) (tally : Tally)
    (hend : (r.rehearseBy x session { interactive := true } suites).1 = .ok tally)
    (hplain : ∀ entry ∈ (r.rehearseBy x session { interactive := true } suites).2.records,
      entry.Plain) :
    let live := (r.rehearseBy x session { interactive := true } suites).2
    let still := (r.rehearseBy x session {} suites).2
    (r.rehearseBy x session {} suites).1 = .ok tally
      ∧ still.session = live.session ∧ still.records = live.records
      ∧ Beneath (Text.pieces (textOf still.log)) live.screen.rows
      ∧ (live.screen.rows.map trimmed = (Text.pieces (textOf still.log)).map trimmed
        ↔ ∀ k, (r.after x k (.start session { interactive := true } suites)).Clear) := by
  intro live still
  have hlive : r.rehearseBy x session { interactive := true } suites = (.ok tally, live) :=
    Prod.ext hend rfl
  obtain ⟨⟨tally', hresult⟩, hbeside, hrows⟩ := r.rehearseBy_beside x hlive hplain
  have hstill : r.rehearseBy x session {} suites = (.ok tally', still) := Prod.ext hresult rfl
  obtain ⟨htally, hpending⟩ := r.rehearseBy_closed x hlive
  obtain ⟨htally', -⟩ := r.rehearseBy_closed x hstill
  obtain ⟨hbeneath, hsame⟩ := hbeside.ended hpending
  refine ⟨?_, hbeside.session.symm, hbeside.records.symm, hbeneath, hsame.trans hrows⟩
  rw [hresult, ← htally', ← htally]
  exact congrArg Except.ok hbeside.tally.symm

end Rehearser

/-- A session that answers everything but one expression with nothing. -/
def answeringRehearser : Rehearser ScriptState where
  session := Script.session { answers := [("let x = 1\nx", [.ok "2"])] }
  laws := ⟨"\x7bexpression\x7d", none, "\x7bexpression\x7d"⟩
  comparison := { strategy := .lineExact }

/-- One step, whose expression is not answered as expected. -/
def failingSuites (expression : Text) : List Suite :=
  [⟨"M", none, [[.dialogue [⟨.label "M", expression, ["1"]⟩]]]⟩]

theorem ok_of_toOption {ε : Type} {result : Except ε α} {a : α} (h : result.toOption = some a) :
    result = .ok a := by
  cases result with
  | ok b => exact congrArg Except.ok (Option.some.inj h)
  | error fault => cases h

/-- A header that breaks off in column 45, right behind the progress text, covers
it: the run ends well, and no point of it tells a problem that does not. -/
theorem rehearse_screen_iff_sample :
    (answeringRehearser.rehearseBy answeringRehearser.examiner {} {}
        (failingSuites "let answer = 42\nanswer")).1 = .ok ⟨1, 1, 0, 1⟩
      ∧ ∀ k, (answeringRehearser.after answeringRehearser.examiner k
        (.start {} { interactive := true } (failingSuites "let answer = 42\nanswer"))).Clear := by
  have hend : (answeringRehearser.rehearseBy answeringRehearser.examiner {} { interactive := true }
      (failingSuites "let answer = 42\nanswer")).1 = .ok ⟨1, 1, 0, 1⟩ :=
    ok_of_toOption (by decide +kernel)
  have hplain : ∀ entry ∈ (answeringRehearser.rehearseBy answeringRehearser.examiner {}
      { interactive := true } (failingSuites "let answer = 42\nanswer")).2.records,
      entry.Plain := by decide +kernel
  obtain ⟨hstill, -, -, -, hscreen⟩ := answeringRehearser.rehearse_screen_iff
    answeringRehearser.examiner {} (failingSuites "let answer = 42\nanswer") _ hend hplain
  exact ⟨hstill, hscreen.mp (by decide +kernel)⟩

/-- A header that breaks off earlier leaves the end of the progress text visible
behind its first line. -/
theorem rehearse_screen_torn :
    let suites := failingSuites "let x = 1\nx"
    let live := answeringRehearser.rehearse {} { interactive := true } suites
    let still := answeringRehearser.rehearse {} {} suites
    live.1.toOption = some ⟨1, 1, 0, 1⟩ ∧ (∀ entry ∈ live.2.records, entry.Plain)
      ∧ live.2.screen.rows[0]? = some ("### Failure in M: expression `let x = 1res: 0" : Text)
      ∧ live.2.screen.rows.map trimmed ≠ (Text.pieces (textOf still.2.log)).map trimmed := by
  decide +kernel

end Rehearsal
