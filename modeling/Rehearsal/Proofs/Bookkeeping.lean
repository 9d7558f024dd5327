/-
  Rehearsal.Proofs.Bookkeeping
  ──────────────────────────────────────
  **A problem counts exactly if all of it was written.**

  A report is used on with a console that runs full: progress, tallies and outcomes
  are posted one after the other, and what failed is simply left behind.  The room
  may run out at any byte of the many that a problem is written with, and what is
  noted about the last line is then as the failed write left it.  Still the tally
  never counts a problem of which a byte is missing, and misses none that is there.

    • `Prints.confined` — a known text, on a console with any limit,
    • `Posting.act_sound` — one posting is made in full or does not count,
    • `Report.postings_accounted` — all postings, whatever some of them ended with.
-/
import Rehearsal.Proofs.Printing
import Rehearsal.Proofs.Simulation
import Rehearsal.Proofs.Truncation

namespace Rehearsal

variable {σ : Type}

/-! ## §1. A known text on a console with a limit. -/

/-- There is room for the whole text. -/
def Console.Fits (console : Console) (text : Text) : Prop :=
  ∀ room, console.room = some room → (Text.utf8 text).length ≤ room

/-- The bytes of some texts are those of the texts joined. -/
theorem written_map_wrote (texts : List Text) :
    written (texts.map .wrote) = Text.utf8 texts.flatten := by
  induction texts with
  | nil => rfl
  | cons text texts ih =>
    have hfirst : written [.wrote text] = Text.utf8 text := by
      unfold written
      show bytesOf (trail [.wrote text]) = _
      rw [show trail [.wrote text] = (Text.utf8 text).map .inr from List.append_nil _]
      exact bytesOf_map_inr _
    show written ([.wrote text] ++ texts.map .wrote) = Text.utf8 (text ++ texts.flatten)
    rw [written_append, ih, hfirst]
    exact List.flatMap_append.symm

/-- **A known text on a console with any limit.**  It is there in full, in one
piece, if there is room for all of it; otherwise the act fails. -/
theorem Prints.confined {stage : Stage σ} {act : Act σ Unit} {text : Text} {p : Nat}
    (hprints : Prints { stage.console with room := none } act text p) (hcut : Truncates act) :
    (stage.console.Fits text ∧ (act stage).1 = .ok ()
        ∧ ∃ texts : List Text,
          (act stage).2.log = stage.log ++ texts.map .wrote ∧ texts.flatten = text)
      ∨ (¬ stage.console.Fits text ∧ (act stage).1 = .error .report) := by
  obtain ⟨texts, hfree, htext⟩ := hprints (stage.withRoom none) rfl
  cases hroom : stage.console.room with
  | none =>
    have hstage : stage.withRoom none = stage := by
      rw [← hroom]
      rfl
    rw [hstage] at hfree
    left
    refine ⟨fun room h => absurd (hroom.symm.trans h) (by simp), ?_, texts, ?_, htext⟩
    · rw [hfree]
    · rw [hfree]
      rfl
  | some room =>
    have hstage : (stage.withRoom none).withRoom (some room) = stage := by
      rw [← hroom]
      rfl
    obtain ⟨events, hlog, -, hbounded⟩ := hcut (stage.withRoom none) rfl room
    rw [hstage, hfree] at hbounded
    rw [hfree] at hlog
    -- What is written without a limit is the text and nothing else.
    obtain rfl : texts.map .wrote = events := List.append_cancel_left hlog
    rw [Bounded, written_map_wrote, htext] at hbounded
    rcases hbounded with ⟨hfits, hbound⟩ | ⟨hfault, left, -, hleft⟩
    · left
      refine ⟨fun room' h => Option.some.inj (hroom.symm.trans h) ▸ hfits, ?_, texts, ?_, htext⟩
      · rw [hbound]
      · rw [hbound]
        rfl
    · right
      refine ⟨fun hfits => ?_, hfault⟩
      have hlt := hleft.lt_length
      change room < (written (texts.map .wrote)).length at hlt
      rw [written_map_wrote, htext] at hlt
      have hle := hfits room hroom
      omega

/-! ## §2. Postings. -/

/-- A call on a report and its tally. -/
inductive Posting where
  /-- Shows the tally as progress. -/
  | progress
  /-- Writes the tally as a durable line. -/
  | summary
  /-- Adds to the tally. -/
  | adjust (delta : Tally)
  /-- Writes what is to be told of an outcome, then counts it. -/
  | record (entry : Record)
  deriving DecidableEq, Repr

namespace Posting

/-- Makes the call. -/
def act : Posting → Act σ Unit
  | progress => Report.showProgress
  | summary => Report.showTally
  | adjust delta => Report.count delta
  | record entry => Report.record entry.place entry.expression entry.outcome

/-- What the call has added to the tally if it ended so: an adjustment always
counts, an outcome only if the call ended well. -/
def added : Posting → Except RunFault Unit → Tally
  | progress, _ => .zero
  | summary, _ => .zero
  | adjust delta, _ => delta
  | record entry, result => if result.isOk then entry.outcome.delta else .zero

end Posting

/-- The block that a problem is written with: its header over the progress text,
every line of its text, and an empty line. -/
def Record.block (console : Console) (entry : Record) (a : Announcement) : Text :=
  console.overlay a.head (some a.paint) ++ ['\n'] ++ (Text.ruled entry.outcome.text ++ ['\n'])

/-- How the recording of an outcome may end: with nothing counted, or with all
that is to be told of it written in one piece. -/
structure Record.AllOrNothing (entry : Record) (before : Stage σ)
    (done : Except RunFault Unit × Stage σ) : Prop where
  /-- Where it fails, nothing counts. -/
  nothing : ∀ fault, done.1 = .error fault → fault = .report
    ∧ done.2.tally = before.tally ∧ done.2.records = before.records
  /-- Where it ends well, the outcome counts. -/
  all : done.1 = .ok () → done.2.tally = before.tally + entry.outcome.delta
    ∧ done.2.records = before.records ++ [entry]
  /-- A success is never written, and never fails. -/
  success : entry.outcome = .success → done.1 = .ok () ∧ done.2.log = before.log
    ∧ done.2.console = before.console
  /-- A problem is counted exactly if there is room for its whole block. -/
  problem : ∀ a, entry.announcement = some a →
    (done.1 = .ok () ↔ before.console.Fits (entry.block before.console a))
      ∧ (done.1 = .ok () → ∃ texts : List Text, done.2.log = before.log ++ texts.map .wrote
        ∧ texts.flatten = entry.block before.console a)

/-- What a call does, whatever it ends with. -/
def Posting.Sound (before : Stage σ) (done : Except RunFault Unit × Stage σ) : Posting → Prop
  | .progress => done.2.tally = before.tally ∧ done.2.records = before.records
  | .summary => done.2.tally = before.tally ∧ done.2.records = before.records
  | .adjust delta => done = (.ok (), { before with tally := before.tally + delta })
  | .record entry => entry.AllOrNothing before done

/-! ## §3. One posting. -/

/-- The text of a success is not written. -/
theorem Record.announcement_eq_none {entry : Record} (h : entry.outcome = .success) :
    entry.announcement = none := by
  unfold announcement
  rw [h]

/-- To record is to tell and then to count, unless telling fails. -/
theorem Report.record_cases (entry : Record) (stage : Stage σ) :
    let told := tell entry.place entry.expression entry.outcome stage
    let done := record entry.place entry.expression entry.outcome stage
    (told.1 = .ok () ∧ done = (.ok (), { told.2 with
        tally := told.2.tally + entry.outcome.delta
        records := told.2.records ++ [entry] }))
      ∨ ∃ fault, told.1 = .error fault ∧ done = (.error fault, told.2) := by
  intro told done
  cases htold : told.1 with
  | ok u => exact .inl ⟨rfl, Act.bind_of_ok htold⟩
  | error fault => exact .inr ⟨fault, rfl, Act.bind_of_error htold⟩

/-- What a problem is told with is there in full, in one piece, if there is room
for it; otherwise telling fails. -/
theorem Report.tell_confined {entry : Record} {a : Announcement}
    (ha : entry.announcement = some a) (stage : Stage σ) :
    let told := tell entry.place entry.expression entry.outcome stage
    (stage.console.Fits (entry.block stage.console a) ∧ told.1 = .ok ()
        ∧ ∃ texts : List Text, told.2.log = stage.log ++ texts.map .wrote
          ∧ texts.flatten = entry.block stage.console a)
      ∨ (¬ stage.console.Fits (entry.block stage.console a) ∧ told.1 = .error .report) := by
  have hprints : Prints { stage.console with room := none }
      (tell entry.place entry.expression entry.outcome : Act σ Unit)
      (entry.block stage.console a) 0 := prints_tell rfl ha
  exact hprints.confined (Report.truncates.tell entry.place entry.expression entry.outcome)

/-- **An outcome is recorded in full or not at all.** -/
theorem Report.record_allOrNothing (entry : Record) (stage : Stage σ) :
    entry.AllOrNothing stage (record entry.place entry.expression entry.outcome stage) := by
  obtain ⟨hunmoved, hfaults⟩ :=
    Frame.unmoved_writes.tell entry.place entry.expression entry.outcome stage
  have hsilent : entry.outcome = .success →
      tell entry.place entry.expression entry.outcome stage = (.ok (), stage) := by
    intro h
    rw [tell_success (Record.announcement_eq_none h)]
    rfl
  rcases record_cases entry stage with ⟨htold, hdone⟩ | ⟨fault, htold, hdone⟩
  · rw [hdone]
    refine ⟨fun fault h => absurd h (by simp), fun _ => ⟨?_, ?_⟩, fun h => ?_, fun a ha => ?_⟩
    · show _ + _ = _ + _
      rw [hunmoved.tally]
    · show _ ++ _ = _ ++ _
      rw [hunmoved.records]
    · rw [hsilent h]
      exact ⟨rfl, rfl, rfl⟩
    · rcases tell_confined ha stage with ⟨hfits, -, texts, hlog, htext⟩ | ⟨-, hfault⟩
      · exact ⟨iff_of_true rfl hfits, fun _ => ⟨texts, hlog, htext⟩⟩
      · exact absurd (htold.symm.trans hfault) (by simp)
  · rw [hdone]
    refine ⟨fun fault' h => ?_, fun h => absurd h (by simp), fun h => ?_, fun a ha => ?_⟩
    · obtain rfl : fault = fault' := Except.error.inj h
      exact ⟨hfaults fault htold, hunmoved.tally, hunmoved.records⟩
    · rw [hsilent h] at htold
      exact absurd htold (by simp)
    · rcases tell_confined ha stage with ⟨-, hok, -⟩ | ⟨hfull, -⟩
      · exact absurd (htold.symm.trans hok) (by simp)
      · exact ⟨iff_of_false (by simp) hfull, fun h => by cases h⟩

/-- **One posting is made in full or does not count.** -/
theorem Posting.act_sound (posting : Posting) (stage : Stage σ) :
    posting.Sound stage (posting.act stage) := by
  cases posting with
  | progress =>
    have h := (Frame.unmoved_writes.showProgress stage).1
    exact ⟨h.tally, h.records⟩
  | summary =>
    have h := (Frame.unmoved_writes.showTally stage).1
    exact ⟨h.tally, h.records⟩
  | adjust delta => rfl
  | record entry => exact Report.record_allOrNothing entry stage

/-- What a posting adds to the tally shows in what it ended with. -/
theorem Posting.tally_act (posting : Posting) (stage : Stage σ) :
    (posting.act stage).2.tally = stage.tally + posting.added (posting.act stage).1 := by
  have hsound := posting.act_sound stage
  cases posting with
  | progress => exact hsound.1.trans (Tally.add_zero _).symm
  | summary => exact hsound.1.trans (Tally.add_zero _).symm
  | adjust delta => rfl
  | record entry =>
    cases hresult : ((Posting.record entry).act stage).1 with
    | ok u => exact (hsound.all hresult).1
    | error fault =>
      rw [(hsound.nothing fault hresult).2.1]
      exact (Tally.add_zero _).symm

/-! ## §4. All postings. -/

namespace Report

/-- Posts one after the other, also behind one that failed; each posting is given
back with what it ended with. -/
def post : List Posting → Stage σ → List (Posting × Except RunFault Unit) × Stage σ
  | [], stage => ([], stage)
  | posting :: rest, stage =>
      let (result, stage) := posting.act stage
      let (receipts, stage) := post rest stage
      ((posting, result) :: receipts, stage)

/-- The postings are made in order, and none is left out. -/
theorem post_postings (postings : List Posting) (stage : Stage σ) :
    (post postings stage).1.map Prod.fst = postings := by
  induction postings generalizing stage with
  | nil => rfl
  | cons posting postings ih => exact congrArg (posting :: ·) (ih _)

/-- The tally moves by what the receipts say. -/
theorem tally_post (postings : List Posting) (stage : Stage σ) :
    (post postings stage).2.tally = stage.tally
      + Tally.sum ((post postings stage).1.map fun receipt => receipt.1.added receipt.2) := by
  induction postings generalizing stage with
  | nil => exact (Tally.add_zero _).symm
  | cons posting postings ih =>
    show (post postings (posting.act stage).2).2.tally = _ + Tally.sum (_ :: _)
    rw [ih, posting.tally_act, Tally.sum_cons, Tally.add_assoc]
    rfl

/-- The receipt of a posting says what it ended with where the others left off. -/
theorem post_append (before : List Posting) (posting : Posting) (after : List Posting)
    (stage : Stage σ) :
    (post (before ++ posting :: after) stage).1
      = (post before stage).1
        ++ (posting, (posting.act (post before stage).2).1)
          :: (post after (posting.act (post before stage).2).2).1 := by
  induction before generalizing stage with
  | nil => rfl
  | cons first before ih => exact congrArg ((first, (first.act stage).1) :: ·) (ih _)

/-- **A problem counts exactly if all of it was written.**  Whatever the console
takes, and whatever some of the postings ended with: the tally is what it was at
the start, with all adjustments and with exactly those outcomes whose recording
ended well.  And each posting, in its turn, does what it stands for or leaves the
counters as they were. -/
theorem postings_accounted (stage : Stage σ) (postings : List Posting) :
    (post postings stage).1.map Prod.fst = postings
      ∧ (post postings stage).2.tally = stage.tally
        + Tally.sum ((post postings stage).1.map fun receipt => receipt.1.added receipt.2)
      ∧ ∀ before posting after, postings = before ++ posting :: after →
        let turn := (post before stage).2
        (post postings stage).1[before.length]? = some (posting, (posting.act turn).1)
          ∧ posting.Sound turn (posting.act turn) := by
  refine ⟨post_postings postings stage, tally_post postings stage, ?_⟩
  rintro before posting after rfl
  refine ⟨?_, posting.act_sound _⟩
  have hlength : (post before stage).1.length = before.length := by
    rw [← List.length_map (f := Prod.fst), post_postings]
  rw [post_append, ← hlength, List.getElem?_append_right (Nat.le_refl _), Nat.sub_self]
  rfl

/-- A problem that is cut off does not count, and the success behind it does. -/
example :
    (post [.record ⟨.label "m", "1 + 1", .failure "expected: 3"⟩, .summary,
        .record ⟨.label "m", "2 + 2", .success⟩]
      { session := (), console := { room := some 20 }, tally := .ofExamples 2 }).2.tally
        = ⟨2, 1, 0, 0⟩ := by
  decide +kernel

end Report

end Rehearsal
