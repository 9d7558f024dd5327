/-
  Rehearsal.Proofs.Modes
  ──────────────────────────────────────
  **The text of a run, and the modes of its console.**

  What a run does with its session, and what it comes to, is decided on a scene
  that knows nothing of the console.  What it reports is a list of passages, the
  same for every console; only the text of a passage depends on whether the
  console is interactive and colored.

  The text of a run is cut into spans, of which only those that hold a header
  look different in color.

    • `Reports.bind` — the passages of two acts, one after the other,
    • `Passage.rendered_still` — the text of the passages on a plain console,
    • `Rehearser.rehearse_modes` — the text of a run in all modes.
-/
import Rehearsal.Proofs.Coverage
import Rehearsal.Proofs.Printing

namespace Rehearsal

variable {σ α β : Type}

/-! ## §1. Spans. -/

/-- The header in bold color, with the code that ends the coloring. -/
def Announcement.colored (a : Announcement) : Text :=
  (match a.paint with
    | .red => ("\x1b[0m\x1b[1m\x1b[31m" : Text)
    | .yellow => ("\x1b[0m\x1b[1m\x1b[33m" : Text)) ++ a.head ++ ("\x1b[0m" : Text)

/-- In color a header is written with its codes, otherwise alone. -/
theorem Console.painted_head (console : Console) (a : Announcement) :
    console.painted a.head (some a.paint) = if console.colored then a.colored else a.head := by
  obtain ⟨head, paint⟩ := a
  unfold painted
  by_cases h : console.colored = true
  · simp only [h, if_true]
    cases paint <;> exact (List.append_assoc _ _ _).symm
  · simp [h]

/-- A stretch of the text of a report. -/
inductive Span where
  | plain (text : Text)
  /-- A header, and the spaces that cover the rest of the progress text. -/
  | header (a : Announcement) (padding : Nat)
  deriving DecidableEq, Repr

namespace Span

/-- Only a header is colored: its code stands directly before it, the code that
ends the coloring directly behind it. -/
def text (colored : Bool) : Span → Text
  | plain text => text
  | header a padding =>
      (if colored then a.colored else a.head) ++ List.replicate padding ' ' ++ ['\n']

/-- What is announced. -/
def announcement? : Span → Option Announcement
  | plain _ => none
  | header a _ => some a

end Span

/-- The text of some spans. -/
def textOfSpans (colored : Bool) (spans : List Span) : Text := spans.flatMap (Span.text colored)

theorem textOfSpans_append (colored : Bool) (a b : List Span) :
    textOfSpans colored (a ++ b) = textOfSpans colored a ++ textOfSpans colored b :=
  List.flatMap_append

/-! ## §2. Passages. -/

/-- Something that is reported in the course of a run. -/
inductive Passage where
  /-- The tally, as progress. -/
  | beat (tally : Tally)
  | outcome (entry : Record)
  deriving DecidableEq, Repr

namespace Passage

/-- The outcome that is reported. -/
def entry? : Passage → Option Record
  | beat _ => none
  | outcome entry => some entry

/-- The width of the progress text behind the passage. -/
def pending (interactive : Bool) (width : Nat) : Passage → Nat
  | beat tally => if interactive then Text.width tally.shown else width
  | outcome entry => if entry.announcement = none then width else 0

/-- The text of the passage over a progress text of a known width. -/
def spans (interactive : Bool) (width : Nat) : Passage → List Span
  | beat tally =>
      if interactive then [.plain (({ pending := width } : Console).overlay tally.shown none)]
      else []
  | outcome entry =>
      match entry.announcement with
      | none => []
      | some a =>
          [.plain ({ pending := width } : Console).restart,
            .header a (width - Text.width a.head),
            .plain (Text.ruled entry.outcome.text ++ ['\n'])]

variable (interactive : Bool) (width : Nat)

theorem pending_success {entry : Record} (h : entry.announcement = none) :
    (outcome entry).pending interactive width = width := if_pos h

theorem pending_problem {entry : Record} {a : Announcement} (h : entry.announcement = some a) :
    (outcome entry).pending interactive width = 0 := if_neg (by simp [h])

theorem spans_success {entry : Record} (h : entry.announcement = none) :
    (outcome entry).spans interactive width = [] := by
  simp only [spans, h]

theorem spans_problem {entry : Record} {a : Announcement} (h : entry.announcement = some a) :
    (outcome entry).spans interactive width
      = [.plain ({ pending := width } : Console).restart,
          .header a (width - Text.width a.head),
          .plain (Text.ruled entry.outcome.text ++ ['\n'])] := by
  simp only [spans, h]

/-- The width of the progress text behind some passages. -/
def settled (passages : List Passage) : Nat := passages.foldl (pending interactive) width

/-- The text of some passages. -/
def rendered : Nat → List Passage → List Span
  | _, [] => []
  | width, passage :: rest =>
      passage.spans interactive width ++ rendered (passage.pending interactive width) rest

theorem settled_append (a b : List Passage) :
    settled interactive width (a ++ b) = settled interactive (settled interactive width a) b :=
  List.foldl_append

theorem rendered_append (a b : List Passage) :
    rendered interactive width (a ++ b)
      = rendered interactive width a ++ rendered interactive (settled interactive width a) b := by
  induction a generalizing width with
  | nil => rfl
  | cons passage a ih =>
    show passage.spans interactive width ++ rendered interactive _ (a ++ b) = _
    rw [ih, ← List.append_assoc]
    rfl

theorem rendered_singleton (passage : Passage) :
    rendered interactive width [passage] = passage.spans interactive width :=
  List.append_nil _

/-- **Every header announces an outcome, every problem has its header.** -/
theorem announcements_rendered (passages : List Passage) :
    (rendered interactive width passages).filterMap Span.announcement?
      = (passages.filterMap entry?).filterMap Record.announcement := by
  -- Every passage leaves another width for the ones behind it.
  induction passages generalizing width with
  | nil => rfl
  | cons passage rest ih =>
    show (passage.spans interactive width ++ rendered interactive _ rest).filterMap _ = _
    rw [List.filterMap_append, ih]
    cases passage with
    | beat tally => cases interactive <;> rfl
    | outcome entry =>
      rw [List.filterMap_cons_some (rfl : entry? (outcome entry) = some entry)]
      cases h : entry.announcement with
      | none =>
        rw [spans_success _ _ h, List.filterMap_cons_none h]
        rfl
      | some a =>
        rw [spans_problem _ _ h, List.filterMap_cons_some h]
        rfl

end Passage

/-! ## §3. The text on a plain console. -/

/-- What is told of an entry where nothing is overwritten or colored. -/
def Record.told (entry : Record) : Text :=
  match entry.announcement with
  | none => []
  | some a => a.head ++ ['\n'] ++ Text.ruled entry.outcome.text ++ ['\n']

/-- On a console that is not interactive no progress text ever stands. -/
theorem Passage.settled_still (passages : List Passage) : settled false 0 passages = 0 := by
  induction passages with
  | nil => rfl
  | cons passage rest ih =>
    have hpending : passage.pending false 0 = 0 := by
      cases passage with
      | beat tally => rfl
      | outcome entry => exact ite_self 0
    show settled false (passage.pending false 0) rest = 0
    rw [hpending, ih]

/-- **On a plain console the problems are told, one after the other.** -/
theorem Passage.rendered_still (passages : List Passage) :
    textOfSpans false (rendered false 0 passages)
      = (passages.filterMap entry?).flatMap Record.told := by
  induction passages with
  | nil => rfl
  | cons passage rest ih =>
    have hpending : passage.pending false 0 = 0 := settled_still [passage]
    show textOfSpans false (passage.spans false 0 ++ rendered false (passage.pending false 0) rest)
      = _
    rw [textOfSpans_append, hpending, ih]
    cases passage with
    | beat tally => rfl
    | outcome entry =>
      rw [List.filterMap_cons_some (rfl : entry? (outcome entry) = some entry), List.flatMap_cons]
      congr 1
      unfold Record.told
      cases h : entry.announcement with
      | none =>
        rw [spans_success _ _ h]
        rfl
      | some a =>
        rw [spans_problem _ _ h]
        simp [textOfSpans, Span.text, Console.restart]

/-! ## §4. Acts that report passages. -/

/-- What a run decides with: nothing of the console, and nothing of what was
written. -/
structure Scene (σ : Type) where
  session : σ
  tally : Tally
  records : List Record
  requests : List Event

/-- The scene of a stage. -/
def Stage.scene (stage : Stage σ) : Scene σ :=
  ⟨stage.session, stage.tally, stage.records, stage.log.filter Event.isRequest⟩

/-- Printing does not change the scene. -/
theorem Stage.scene_printed (stage : Stage σ) (texts : List Text) (pending : Nat) :
    (stage.printed texts pending).scene = stage.scene := by
  simp [Stage.printed, Stage.scene, Event.isRequest]

/-- The passages are what was written between two stages. -/
structure Shown (passages : List Passage) (before after : Stage σ) : Prop where
  console : after.console = { before.console with
    pending := Passage.settled before.console.interactive before.console.pending passages }
  text : textOf after.log = textOf before.log ++ textOfSpans before.console.colored
    (Passage.rendered before.console.interactive before.console.pending passages)

namespace Shown

theorem trans {a b : List Passage} {before mid after : Stage σ} (ha : Shown a before mid)
    (hb : Shown b mid after) : Shown (a ++ b) before after where
  console := by rw [hb.console, ha.console, Passage.settled_append]
  text := by
    rw [hb.text, ha.text, ha.console, Passage.rendered_append, textOfSpans_append,
      List.append_assoc]

/-- Where no text was added, nothing was reported. -/
theorem nothing {before after : Stage σ} (hconsole : after.console = before.console)
    (htext : textOf after.log = textOf before.log) : Shown [] before after where
  console := hconsole
  text := htext.trans (List.append_nil _).symm

/-- What was printed is the text of the passages. -/
theorem of_printed {stage : Stage σ} {texts : List Text} {pending : Nat} {passages : List Passage}
    (hpending : pending
      = Passage.settled stage.console.interactive stage.console.pending passages)
    (htexts : texts.flatten = textOfSpans stage.console.colored
      (Passage.rendered stage.console.interactive stage.console.pending passages)) :
    Shown passages stage (stage.printed texts pending) where
  console := by rw [hpending]; rfl
  text := by
    show textOf (stage.log ++ texts.map .wrote) = _
    rw [textOf_append, textOf_map_wrote, htexts]

end Shown

/-- What the act comes to, how it leaves the scene and what it reports are known
from the scene alone; the outcomes that it reports are the ones it records. -/
def Reports (act : Act σ α) : Prop :=
  ∀ scene : Scene σ, ∃ (result : Except RunFault α) (left : Scene σ) (passages : List Passage),
    left.records = scene.records ++ passages.filterMap Passage.entry?
    ∧ ∀ stage : Stage σ, stage.scene = scene → stage.console.room = none →
        (act stage).1 = result ∧ (act stage).2.scene = left ∧ Shown passages stage (act stage).2

namespace Reports

theorem pure (a : α) : Reports (Pure.pure a : Act σ α) := fun scene =>
  ⟨.ok a, scene, [], (List.append_nil _).symm, fun _ hscene _ =>
    ⟨rfl, hscene, .nothing rfl rfl⟩⟩

/-- **The passages of two acts, one after the other.** -/
theorem bind {act : Act σ α} {next : α → Act σ β} (h : Reports act)
    (hn : ∀ a, Reports (next a)) : Reports (act >>= next) := by
  intro scene
  obtain ⟨result, mid, passages, hrecords, hact⟩ := h scene
  cases result with
  | error fault =>
    -- Whether the second act is done at all depends on the scene alone.
    refine ⟨.error fault, mid, passages, hrecords, fun stage hscene hroom => ?_⟩
    obtain ⟨hresult, hmid, hshown⟩ := hact stage hscene hroom
    rw [Act.bind_of_error hresult]
    exact ⟨rfl, hmid, hshown⟩
  | ok a =>
    obtain ⟨result, left, passages', hrecords', hnext⟩ := hn a mid
    refine ⟨result, left, passages ++ passages', ?_, fun stage hscene hroom => ?_⟩
    · rw [hrecords', hrecords, List.filterMap_append, List.append_assoc]
    obtain ⟨hresult, hmid, hshown⟩ := hact stage hscene hroom
    -- The second act finds the console that the first one left.
    have hroom' : (act stage).2.console.room = none := by rw [hshown.console]; exact hroom
    obtain ⟨hresult', hleft, hshown'⟩ := hnext (act stage).2 hmid hroom'
    rw [Act.bind_of_ok hresult]
    exact ⟨hresult', hleft, hshown.trans hshown'⟩

theorem composes : Act.Composes (σ := σ) Reports where
  pure := pure
  bind := bind

/-- Looking at the scene. -/
theorem look (view : Stage σ → α) (seen : Scene σ → α)
    (h : ∀ stage, view stage = seen stage.scene) : Reports (Act.look view) := fun scene =>
  ⟨.ok (seen scene), scene, [], (List.append_nil _).symm, fun stage hscene _ =>
    ⟨congrArg Except.ok (hscene ▸ h stage), hscene, .nothing rfl rfl⟩⟩

end Reports

/-! ## §5. Runs report passages. -/

variable {s : Session σ}

/-- The session decides what a request comes to; nothing is written. -/
theorem Reports.of_request {act : Act σ α} (result : σ → Except RunFault α) (next : σ → σ)
    (event : σ → Event) (hevent : ∀ session, (event session).isRequest = true)
    (hact : ∀ stage : Stage σ, act stage = (result stage.session, { stage with
      session := next stage.session, log := stage.log ++ [event stage.session] })) :
    Reports act := by
  intro scene
  refine ⟨result scene.session,
    { scene with
      session := next scene.session
      requests := scene.requests ++ [event scene.session] },
    [], (List.append_nil _).symm, ?_⟩
  rintro stage rfl -
  rw [hact]
  have hsilent : textOf [event stage.session] = [] := textOf_requests (by simp [hevent])
  refine ⟨rfl, ?_, .nothing rfl ?_⟩
  · simp [Stage.scene, hevent]
  · rw [textOf_append, hsilent, List.append_nil]

theorem Act.reports_reload : Reports (Act.reload s) :=
  .of_request (fun session => (s.reload session).1.mapError .session)
    (fun session => (s.reload session).2)
    (fun session => .reloaded (s.reload session).1.isOk) (fun _ => rfl) (Act.reload_eq s)

theorem Act.reports_ask (expression : Text) : Reports (Act.ask s expression) :=
  .of_request (fun session => .ok (s.evaluate session expression).1)
    (fun session => (s.evaluate session expression).2) (fun _ => .asked expression) (fun _ => rfl)
    fun _ => rfl

namespace Report

/-- The running tally is shown as it is on the scene. -/
theorem reports_progress : Reports (showProgress : Act σ Unit) := by
  intro scene
  refine ⟨.ok (), scene, [.beat scene.tally], (List.append_nil _).symm, ?_⟩
  rintro stage rfl hroom
  obtain ⟨texts, hact, htexts⟩ := prints_progress hroom stage.tally.shown stage rfl
  have hshow : showProgress stage = _ := hact
  rw [hshow]
  refine ⟨rfl, stage.scene_printed _ _, .of_printed rfl ?_⟩
  rw [htexts, Passage.rendered_singleton]
  unfold Passage.spans
  by_cases h : stage.console.interactive = true
  · simp only [h, if_true]
    exact (List.append_nil _).symm
  · simp only [h]
    rfl

/-- **What is told of an outcome** are the spans of its passage. -/
theorem prints_outcome {console : Console} (hroom : console.room = none) (entry : Record) :
    Prints console (tell entry.place entry.expression entry.outcome : Act σ Unit)
      (textOfSpans console.colored
        ((Passage.outcome entry).spans console.interactive console.pending))
      ((Passage.outcome entry).pending console.interactive console.pending) := by
  cases h : entry.announcement with
  | none =>
    rw [tell_success h, Passage.spans_success _ _ h, Passage.pending_success _ _ h]
    exact .nothing
  | some a =>
    have htext : textOfSpans console.colored
          ((Passage.outcome entry).spans console.interactive console.pending)
        = console.overlay a.head (some a.paint) ++ ['\n']
          ++ (Text.ruled entry.outcome.text ++ ['\n']) := by
      rw [Passage.spans_problem _ _ h]
      simp [textOfSpans, Span.text, Console.overlay, Console.restart, Console.painted_head]
    rw [htext, Passage.pending_problem _ _ h]
    exact prints_tell hroom h

theorem reports_record (place : Place) (expression : Text) (outcome : Outcome) :
    Reports (record place expression outcome : Act σ Unit) := by
  intro scene
  refine ⟨.ok (), { scene with
      tally := scene.tally + outcome.delta
      records := scene.records ++ [⟨place, expression, outcome⟩] },
    [.outcome ⟨place, expression, outcome⟩], rfl, ?_⟩
  rintro stage rfl hroom
  obtain ⟨texts, hact, htexts⟩ :=
    prints_outcome hroom ⟨place, expression, outcome⟩ stage rfl
  -- All of the text is written before anything is counted.
  have hrecord : record place expression outcome stage = (.ok (),
      let told := stage.printed texts ((Passage.outcome ⟨place, expression, outcome⟩).pending
        stage.console.interactive stage.console.pending)
      { told with
        tally := told.tally + outcome.delta
        records := told.records ++ [⟨place, expression, outcome⟩] }) := by
    show Act.bind _ _ stage = _
    rw [Act.bind, hact]
    rfl
  have hshown : Shown [.outcome ⟨place, expression, outcome⟩] stage (stage.printed texts _) :=
    .of_printed rfl (htexts.trans (by rw [Passage.rendered_singleton]))
  rw [hrecord]
  refine ⟨rfl, ?_, hshown.console, hshown.text⟩
  simp [Stage.printed, Stage.scene, Event.isRequest]

end Report

/-- **A run, up to its final tally, reports passages.** -/
theorem Rehearser.reports (s : Session σ) : Rehearser.Parts s (Reports (σ := σ)) where
  toComposes := Reports.composes
  tally := .look _ (·.tally) fun _ => rfl
  reload := Act.reports_reload
  ask := Act.reports_ask
  record := Report.reports_record
  showProgress := Report.reports_progress

/-! ## §6. The text of a whole run. -/

/-- The final tally is written over what progress text there is. -/
theorem Report.showTally_told (stage : Stage σ) (hroom : stage.console.room = none) :
    ∃ texts, (do Report.showTally; Act.look (·.tally) : Act σ Tally) stage
        = (.ok stage.tally, stage.printed texts 0)
      ∧ texts.flatten = stage.console.overlay stage.tally.shown none ++ ['\n'] := by
  obtain ⟨texts, hact, htexts⟩ := prints_line hroom stage.tally.shown none stage rfl
  have hshow : showTally stage = _ := hact
  refine ⟨texts, ?_, htexts⟩
  rw [Act.bind_of_ok (congrArg Prod.fst hshow), hshow]
  rfl

/-- The final tally of a run that completes, over progress text of a known width. -/
def Passage.closing (width : Nat) : Except RunFault Tally → List Span
  | .error _ => []
  | .ok tally => [.plain (({ pending := width } : Console).overlay tally.shown none ++ ['\n'])]

/-- On a plain console the final tally is a line of its own. -/
theorem Passage.closing_still (tally : Tally) :
    textOfSpans false (closing 0 (.ok tally)) = tally.shown ++ ['\n'] := by
  simp [closing, textOfSpans, Span.text, Report.overlay_fresh]

/-- **One scene and one list of passages for all consoles.** -/
theorem Rehearser.runAll_reports (r : Rehearser σ) (suites : List Suite) (scene : Scene σ) :
    ∃ (result : Except RunFault Tally) (left : Scene σ) (passages : List Passage),
      left.records = scene.records ++ passages.filterMap Passage.entry?
      ∧ ∀ stage : Stage σ, stage.scene = scene → stage.console.room = none →
          (r.runAll suites stage).1 = result
          ∧ (r.runAll suites stage).2.scene = left
          ∧ textOf (r.runAll suites stage).2.log = textOf stage.log
            ++ textOfSpans stage.console.colored
              (Passage.rendered stage.console.interactive stage.console.pending passages
                ++ Passage.closing (Passage.settled stage.console.interactive
                  stage.console.pending passages) result) := by
  have family := Rehearser.reports r.session
  obtain ⟨result, left, passages, hrecords, hsuites⟩ := family.each family.runSuite suites scene
  cases result with
  | error fault =>
    refine ⟨.error fault, left, passages, hrecords, fun stage hscene hroom => ?_⟩
    obtain ⟨hresult, hleft, hshown⟩ := hsuites stage hscene hroom
    rw [Rehearser.runAll, Act.bind_of_error hresult]
    refine ⟨rfl, hleft, ?_⟩
    rw [Passage.closing, List.append_nil]
    exact hshown.text
  | ok u =>
    refine ⟨.ok left.tally, left, passages, hrecords, fun stage hscene hroom => ?_⟩
    obtain ⟨hresult, rfl, hshown⟩ := hsuites stage hscene hroom
    rw [Rehearser.runAll, Act.bind_of_ok hresult]
    -- The final tally is written over what the last group left on the line.
    obtain ⟨texts, hact, htexts⟩ := Report.showTally_told (Act.each r.runSuite suites stage).2
      (by rw [hshown.console]; exact hroom)
    rw [hact]
    refine ⟨rfl, Stage.scene_printed _ _ _, ?_⟩
    show textOf ((Act.each r.runSuite suites stage).2.log ++ texts.map .wrote) = _
    rw [textOf_append, textOf_map_wrote, htexts, hshown.text, hshown.console, textOfSpans_append,
      List.append_assoc]
    simp [Passage.closing, textOfSpans, Span.text, Console.overlay, Console.restart,
      Console.painted, Stage.scene]

/-- **The text of a run in all modes of its console.**  Interactive or colored or
not, the session gets the same requests, the same outcomes are recorded and the
run comes to the same.  On a plain console the text is what is told of the
recorded problems, in order, and the final tally if the run completes.  In either
mode the text of a run consists of the same spans whether it is colored or not,
and their headers announce the recorded problems. -/
theorem Rehearser.rehearse_modes (r : Rehearser σ) (session : σ) (suites : List Suite) :
    (∀ interactive colored,
      (r.rehearse session { interactive, colored } suites).1 = (r.rehearse session {} suites).1
      ∧ (r.rehearse session { interactive, colored } suites).2.log.filter Event.isRequest
        = (r.rehearse session {} suites).2.log.filter Event.isRequest
      ∧ (r.rehearse session { interactive, colored } suites).2.records
        = (r.rehearse session {} suites).2.records)
    ∧ textOf (r.rehearse session {} suites).2.log
      = (r.rehearse session {} suites).2.records.flatMap Record.told
        ++ (match (r.rehearse session {} suites).1 with
          | .ok _ =>
              let tally := Tally.ofExamples (countExamples suites)
                + Tally.ofRecords (r.rehearse session {} suites).2.records
              ("Examples: " : Text) ++ Text.ofNat tally.examples
                ++ ("  Tried: " : Text) ++ Text.ofNat tally.tried
                ++ ("  Errors: " : Text) ++ Text.ofNat tally.errors
                ++ ("  Failures: " : Text) ++ Text.ofNat tally.failures ++ ['\n']
          | .error _ => [])
    ∧ ∀ interactive, ∃ spans : List Span,
        spans.filterMap Span.announcement?
          = (r.rehearse session {} suites).2.records.filterMap Record.announcement
        ∧ ∀ colored, textOf (r.rehearse session { interactive, colored } suites).2.log
            = spans.flatMap (Span.text colored) := by
  obtain ⟨result, left, passages, hrecords, hrun⟩ := r.runAll_reports suites
    ⟨session, .ofExamples (countExamples suites), [], []⟩
  -- Every run of the statement starts on a stage with this scene.
  have hmode : ∀ interactive colored,
      (r.rehearse session { interactive, colored } suites).1 = result
      ∧ (r.rehearse session { interactive, colored } suites).2.scene = left
      ∧ textOf (r.rehearse session { interactive, colored } suites).2.log
        = textOfSpans colored (Passage.rendered interactive 0 passages
          ++ Passage.closing (Passage.settled interactive 0 passages) result) :=
    fun _ _ => hrun { session, console := _, tally := _ } rfl rfl
  obtain ⟨hresult, hscene, htext⟩ := hmode false false
  have hleft : (r.rehearse session {} suites).2.records = passages.filterMap Passage.entry? :=
    (congrArg Scene.records hscene).trans hrecords
  refine ⟨fun interactive colored => ?_, ?_, fun interactive => ?_⟩
  · obtain ⟨hresult', hscene', -⟩ := hmode interactive colored
    have hsame := hscene'.trans hscene.symm
    exact ⟨hresult'.trans hresult.symm, congrArg Scene.requests hsame,
      congrArg Scene.records hsame⟩
  · rw [htext, textOfSpans_append, Passage.rendered_still, Passage.settled_still, hleft]
    congr 1
    cases hend : (r.rehearse session {} suites).1 with
    | error fault =>
      rw [← hresult, hend]
      rfl
    | ok tally =>
      -- The counters are those of the records, whatever was written.
      obtain ⟨htally, -⟩ := r.rehearse_report session {} suites tally hend
      rw [← hresult, hend, ← hleft, ← htally]
      exact Passage.closing_still tally
  · refine ⟨Passage.rendered interactive 0 passages
      ++ Passage.closing (Passage.settled interactive 0 passages) result, ?_,
      fun colored => (hmode interactive colored).2.2⟩
    -- The final tally is no header.
    have hclosing : (Passage.closing (Passage.settled interactive 0 passages) result).filterMap
        Span.announcement? = [] := by cases result <;> rfl
    rw [List.filterMap_append, Passage.announcements_rendered, hclosing, List.append_nil, hleft]

end Rehearsal
