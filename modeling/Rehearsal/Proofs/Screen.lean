/-
  Rehearsal.Proofs.Screen
  ──────────────────────────────────────
  **A live console beside a still one.**

  The same act is done on two stages, one with a live console, which shows
  progress, and one with a still console.  Both do the same, but for the progress
  text; each line of the still console stands at the start of its row on the live
  one; and the rows are the lines, up to trailing spaces, as long as every header
  that is put over progress text covers it.

    • `Beside` — what holds of the two stages,
    • `Alike` — acts that bring no difference between the rows,
    • `Beside.tell` — a problem brings one unless its header covers the progress.
-/
import Rehearsal.Proofs.Agenda
import Rehearsal.Proofs.Printing
import Rehearsal.Proofs.Terminal

namespace Rehearsal

variable {σ α β : Type}

open Text (trimmed)

/-! ## §1. Plain reports. -/

namespace Text

theorem digits_plain (n : Nat) : ∀ c ∈ ofNat n, isPlain c = true ∧ c ≠ '\n' ∧ c ≠ ' ' := by
  intro c hc
  have hdigit : c.isDigit = true := Nat.isDigit_of_mem_toDigits (by decide) (by decide) hc
  unfold Char.isDigit at hdigit
  rw [Bool.and_eq_true, decide_eq_true_eq, decide_eq_true_eq] at hdigit
  have hlow : 48 ≤ c.toNat := UInt32.le_iff_toNat_le.mp hdigit.1
  have hhigh : c.toNat ≤ 57 := UInt32.le_iff_toNat_le.mp hdigit.2
  refine ⟨?_, ?_, ?_⟩
  · have hrange : 0x20 ≤ c.toNat ∧ c.toNat ≤ 0x7E := by omega
    simp [isPlain, hrange]
  · rintro rfl
    exact absurd hlow (by decide)
  · rintro rfl
    exact absurd hlow (by decide)

/-- The lines of a plain text are plain. -/
theorem Plain.line {t line : Text} (h : t.Plain) (hline : line ∈ lines t) : line.Plain :=
  fun c hc => h c (mem_of_mem_lines hc hline)

theorem Plain.ruled {t : Text} (h : t.Plain) : (Text.ruled t).Plain := by
  intro c hc
  obtain ⟨line, hline, hc⟩ := List.mem_flatMap.mp hc
  rcases List.mem_append.mp hc with hc | hc
  · exact h.line hline c hc
  · rw [List.mem_singleton.mp hc]
    rfl

end Text

/-- A tally is shown as plain text on one line, which ends in a digit. -/
theorem Tally.shown_plain (t : Tally) :
    t.shown.Plain ∧ '\n' ∉ t.shown ∧ t.shown ≠ [] ∧ t.shown.getLast? ≠ some ' ' := by
  have hnumber (n : Nat) : (Text.ofNat n).Plain ∧ '\n' ∉ Text.ofNat n :=
    ⟨fun c hc => (Text.digits_plain n c hc).1, fun h => (Text.digits_plain n _ h).2.1 rfl⟩
  have hlast : ∃ c, t.shown.getLast? = some c ∧ c ∈ Text.ofNat t.failures := by
    have hne : Text.ofNat t.failures ≠ [] := Nat.toDigits_ne_nil
    refine ⟨(Text.ofNat t.failures).getLast hne, ?_, List.getLast_mem hne⟩
    unfold shown
    rw [List.getLast?_append, List.getLast?_eq_some_getLast hne]
    rfl
  obtain ⟨c, hc, hmem⟩ := hlast
  refine ⟨?_, ?_, ?_, ?_⟩
  · unfold shown
    simp only [Text.plain_append, hnumber, and_true]
    decide
  · unfold shown
    simp only [List.mem_append, hnumber, or_false]
    decide
  · intro h
    rw [h] at hc
    cases hc
  · rw [hc]
    exact fun h => (Text.digits_plain _ c hmem).2.2 (Option.some.inj h)

/-- Place, expression and text of an entry are plain. -/
structure Record.Plain (entry : Record) : Prop where
  place : entry.place.shown.Plain
  expression : entry.expression.Plain
  outcome : entry.outcome.text.Plain

instance (entry : Record) : Decidable entry.Plain :=
  decidable_of_iff
    (entry.place.shown.Plain ∧ entry.expression.Plain ∧ entry.outcome.text.Plain)
    ⟨fun h => ⟨h.1, h.2.1, h.2.2⟩, fun h => ⟨h.place, h.expression, h.outcome⟩⟩

theorem Record.Plain.head {entry : Record} (h : entry.Plain) {a : Announcement}
    (ha : entry.announcement = some a) : a.head.Plain := by
  have hheader : ∀ start : Text, start.Plain → (start ++ entry.place.shown
      ++ (": expression `" : Text) ++ entry.expression ++ ("'" : Text)).Plain := by
    intro start hstart
    simp only [Text.plain_append]
    exact ⟨⟨⟨⟨hstart, h.place⟩, by decide⟩, h.expression⟩, by decide⟩
  unfold Record.announcement at ha
  cases hentry : entry.outcome with
  | success => simp [hentry] at ha
  | failure diagnostic =>
    simp only [hentry, Option.some.injEq] at ha
    exact ha ▸ hheader "### Failure in " (by decide)
  | error message =>
    simp only [hentry, Option.some.injEq] at ha
    exact ha ▸ hheader "### Error in " (by decide)

/-! ## §2. Two stages beside each other. -/

/-- What a terminal shows of all that was written. -/
def Stage.screen (stage : Stage σ) : Terminal := ({} : Terminal).print (textOf stage.log)

/-- A console that shows progress and stands at `n` columns of it. -/
def Console.live (n : Nat) : Console := { interactive := true, pending := n }

/-- The live stage stands where the still one stands; the rows above its cursor
have the lines of the still one at their start. -/
structure Beside (live still : Stage σ) : Prop where
  session : live.session = still.session
  tally : live.tally = still.tally
  records : live.records = still.records
  onLive : live.console = .live live.console.pending
  onStill : still.console = {}
  progress : live.screen.Holds live.console.pending
  finished : still.screen = { above := still.screen.above }
  plain : (textOf still.log).Plain
  beneath : Beneath still.screen.above live.screen.above

/-- Above the cursors, both stages show the same, up to trailing spaces. -/
def SameRows (live still : Stage σ) : Prop :=
  live.screen.above.map trimmed = still.screen.above.map trimmed

theorem Stage.screen_printed (stage : Stage σ) (texts : List Text) (pending : Nat) :
    (stage.printed texts pending).screen = stage.screen.print texts.flatten := by
  unfold screen printed
  rw [textOf_append, textOf_map_wrote, Terminal.print_append]

/-- The stage with another state of the session, other counts and records, and more
events. -/
def Stage.moved (stage : Stage σ) (session : σ) (tally : Tally) (records : List Record)
    (events : List Event) : Stage σ :=
  { stage with session := session, tally := tally, records := records, log := stage.log ++ events }

namespace Beside

variable {live still : Stage σ}

/-- What writes no text leaves the screens alone. -/
theorem silent (h : Beside live still) (session : σ) (tally : Tally) (records : List Record)
    {events : List Event} (hevents : textOf events = []) :
    Beside (live.moved session tally records events) (still.moved session tally records events)
      ∧ (SameRows (live.moved session tally records events)
          (still.moved session tally records events) ↔ SameRows live still) := by
  have hlog (stage : Stage σ) :
      textOf (stage.moved session tally records events).log = textOf stage.log := by
    show textOf (stage.log ++ events) = _
    rw [textOf_append, hevents, List.append_nil]
  have hscreen (stage : Stage σ) :
      (stage.moved session tally records events).screen = stage.screen :=
    congrArg ({} : Terminal).print (hlog stage)
  refine ⟨⟨rfl, rfl, rfl, h.onLive, h.onStill, ?_, ?_, ?_, ?_⟩, ?_⟩
  · rw [hscreen]
    exact h.progress
  · rw [hscreen]
    exact h.finished
  · rw [hlog]
    exact h.plain
  · rw [hscreen, hscreen]
    exact h.beneath
  · unfold SameRows
    rw [hscreen, hscreen]

end Beside

/-! ## §3. Acts beside each other. -/

/-- On stages beside each other the act gives the same, and it leaves stages beside
each other behind, with no new difference between the rows. -/
def Alike (act : Act σ α) : Prop :=
  ∀ live still, Beside live still → (act live).1 = (act still).1
    ∧ Beside (act live).2 (act still).2
    ∧ (SameRows (act live).2 (act still).2 ↔ SameRows live still)

namespace Alike

theorem pure (a : α) : Alike (Pure.pure a : Act σ α) := fun _ _ h => ⟨rfl, h, Iff.rfl⟩

theorem bind {act : Act σ α} {next : α → Act σ β} (h : Alike act) (hn : ∀ a, Alike (next a)) :
    Alike (act >>= next) := by
  intro live still hbeside
  obtain ⟨hresult, hmid, hrows⟩ := h live still hbeside
  show (Act.bind act next live).1 = (Act.bind act next still).1
    ∧ Beside (Act.bind act next live).2 (Act.bind act next still).2
    ∧ (SameRows (Act.bind act next live).2 (Act.bind act next still).2 ↔ _)
  unfold Act.bind
  cases hlive : act live with
  | mk result live' =>
    cases hstill : act still with
    | mk result' still' =>
      rw [hlive, hstill] at hresult hmid hrows
      obtain rfl : result = result' := hresult
      cases result with
      | error fault => exact ⟨rfl, hmid, hrows⟩
      | ok a =>
        obtain ⟨hresult', hmid', hrows'⟩ := hn a live' still' hmid
        exact ⟨hresult', hmid', hrows'.trans hrows⟩

theorem tally : Alike (Act.look (·.tally) : Act σ Tally) := by
  intro live still h
  refine ⟨?_, h, Iff.rfl⟩
  show Except.ok live.tally = Except.ok still.tally
  rw [h.tally]

/-- An act that writes no text, and that does what it does by the state of the
session. -/
theorem of_silent {act : Act σ α} (result : σ → Except RunFault α) (next : σ → σ)
    (events : σ → List Event) (counted : Tally → Tally) (recorded : List Record → List Record)
    (hact : ∀ stage, act stage = (result stage.session, stage.moved (next stage.session)
      (counted stage.tally) (recorded stage.records) (events stage.session)))
    (hevents : ∀ state, textOf (events state) = []) : Alike act := by
  intro live still h
  rw [hact live, hact still, h.session, h.tally, h.records]
  exact ⟨rfl, h.silent _ _ _ (hevents _)⟩

theorem reload (s : Session σ) : Alike (Act.reload s) :=
  of_silent (fun state => (s.reload state).1.mapError .session)
    (fun state => (s.reload state).2) (fun state => [.reloaded (s.reload state).1.isOk]) id id
    (Act.reload_eq s) fun _ => rfl

theorem ask (s : Session σ) (expression : Text) : Alike (Act.ask s expression) :=
  of_silent (fun state => .ok (s.evaluate state expression).1)
    (fun state => (s.evaluate state expression).2) (fun _ => [.asked expression]) id id
    (fun _ => rfl) fun _ => rfl

theorem check (x : Examiner σ) (law : Text) : Alike (x.check law) :=
  of_silent (fun state => .ok (x.examine state law).1) (fun state => (x.examine state law).2.2)
    (fun state => (x.examine state law).2.1) id id (fun _ => rfl)
    fun state => textOf_requests (x.requests state law)

theorem enter (entry : Record) : Alike (Report.enter entry : Act σ Unit) := by
  refine of_silent (fun _ => .ok ()) id (fun _ => []) (· + entry.outcome.delta) (· ++ [entry])
    (fun stage => ?_) fun _ => rfl
  show (Except.ok (), _) = (Except.ok (), _)
  simp [Stage.moved]

end Alike

/-! ## §4. The report on both consoles. -/

namespace Console

/-- An uncolored console puts a plain message over its progress text as it is. -/
theorem overlay_plain {console : Console} (h : console.colored = false) {message : Text}
    (hplain : message.Plain) (paint : Option Paint) :
    console.overlay message paint = Text.overwriting console.pending message := by
  have hpainted : console.painted message paint = message := by
    cases paint with
    | none => rfl
    | some paint => simp [painted, h]
  unfold overlay restart Text.overwriting
  rw [hpainted, hplain.width_eq]

theorem overlay_still {message : Text} (hplain : message.Plain) (paint : Option Paint) :
    ({} : Console).overlay message paint = message := by
  rw [overlay_plain rfl hplain]
  exact Text.overwriting_nothing message

end Console

/-- Both stages print: `rows` come above the live cursor and `lines` above the
still one, and `p` columns of progress text are left on the live one. -/
theorem Beside.prints {live still : Stage σ} (h : Beside live still) {act : Act σ Unit}
    {text text' : Text} {p : Nat} {rows lines : List Text}
    (hlive : Prints (.live live.console.pending) act text p) (hstill : Prints {} act text' 0)
    (hprogress : (live.screen.print text).Holds p)
    (hrows : (live.screen.print text).above = live.screen.above ++ rows)
    (hlines : still.screen.print text' = { above := still.screen.above ++ lines })
    (hplain : text'.Plain) (hbeneath : Beneath lines rows) :
    (act live).1 = (act still).1 ∧ Beside (act live).2 (act still).2
      ∧ (SameRows (act live).2 (act still).2
        ↔ SameRows live still ∧ rows.map trimmed = lines.map trimmed) := by
  obtain ⟨texts, hact, rfl⟩ := hlive live h.onLive
  obtain ⟨texts', hact', rfl⟩ := hstill still h.onStill
  rw [hact, hact']
  have habove : (live.printed texts p).screen.above = live.screen.above ++ rows := by
    rw [Stage.screen_printed, hrows]
  have habove' : (still.printed texts' 0).screen = { above := still.screen.above ++ lines } := by
    rw [Stage.screen_printed, hlines]
  refine ⟨rfl, ⟨h.session, h.tally, h.records, ?_, ?_, ?_, ?_, ?_, ?_⟩, ?_⟩
  · show { live.console with pending := p } = _
    rw [h.onLive]
    rfl
  · show { still.console with pending := 0 } = _
    rw [h.onStill]
  · rw [Stage.screen_printed]
    exact hprogress
  · rw [habove']
  · show (textOf (still.log ++ _)).Plain
    rw [textOf_append, textOf_map_wrote]
    exact Text.plain_append.mpr ⟨h.plain, hplain⟩
  · rw [habove, habove']
    exact h.beneath.append hbeneath
  · unfold SameRows
    dsimp only
    rw [habove, habove', List.map_append, List.map_append]
    constructor
    · intro heq
      exact List.append_inj heq (by rw [List.length_map, List.length_map, h.beneath.length_eq])
    · rintro ⟨hfirst, hsecond⟩
      rw [hfirst, hsecond]

section Reports

variable {message : Text} (hplain : message.Plain)
include hplain

theorem prints_live_line (n : Nat) (paint : Option Paint) :
    Prints (.live n) (Report.line message paint : Act σ Unit)
      (Text.overwriting n message ++ ['\n']) 0 := by
  have h := Report.prints_line (σ := σ) (rfl : (Console.live n).room = none) message paint
  rwa [Console.overlay_plain rfl hplain] at h

theorem prints_still_line (paint : Option Paint) :
    Prints {} (Report.line message paint : Act σ Unit) (message ++ ['\n']) 0 := by
  have h := Report.prints_line (σ := σ) (rfl : ({} : Console).room = none) message paint
  rwa [Console.overlay_still hplain] at h

end Reports

/-- Only the live console shows progress, and nothing of it comes above its cursor. -/
theorem Alike.showProgress : Alike (Report.showProgress : Act σ Unit) := by
  intro live still h
  obtain ⟨hplain, hflat, hne, hend⟩ := still.tally.shown_plain
  have hlive : Prints (.live live.console.pending)
      (Report.progress still.tally.shown : Act σ Unit)
      (Text.overwriting live.console.pending still.tally.shown) still.tally.shown.length := by
    have h := Report.prints_progress (σ := σ)
      (rfl : (Console.live live.console.pending).room = none) still.tally.shown
    simp only [Console.live, if_true, hplain.width_eq] at h
    rwa [Console.overlay_plain rfl hplain] at h
  have hstill : Prints {} (Report.progress still.tally.shown : Act σ Unit) [] 0 :=
    Report.prints_progress (rfl : ({} : Console).room = none) still.tally.shown
  obtain ⟨habove, hholds⟩ := h.progress.print_progress hplain.return_not_mem hflat hne hend
  have hshow (stage : Stage σ) (htally : stage.tally = still.tally) :
      Report.showProgress stage = Report.progress still.tally.shown stage := by
    rw [← htally]
    rfl
  rw [hshow live h.tally, hshow still rfl]
  obtain ⟨hresult, hbeside, hrows⟩ := h.prints hlive hstill hholds
    (habove.trans (List.append_nil _).symm) (h.finished.trans (by rw [List.append_nil]))
    (fun c hc => absurd hc List.not_mem_nil) .nil
  exact ⟨hresult, hbeside, hrows.trans (and_iff_left rfl)⟩

/-- The final tally is a line on both consoles. -/
theorem Alike.showTally : Alike (Report.showTally : Act σ Unit) := by
  intro live still h
  obtain ⟨hplain, hflat, -⟩ := still.tally.shown_plain
  obtain ⟨rows, hprint, hbeneath, hrows⟩ := h.progress.print_line hplain.return_not_mem
  have hshow (stage : Stage σ) (htally : stage.tally = still.tally) :
      Report.showTally stage = Report.line still.tally.shown none stage := by
    rw [← htally]
    rfl
  rw [hshow live h.tally, hshow still rfl]
  have hstill : still.screen.print (still.tally.shown ++ ['\n'])
      = { above := still.screen.above ++ Text.pieces still.tally.shown } := by
    rw [h.finished]
    exact Terminal.print_durable hplain.return_not_mem _
  obtain ⟨hresult, hbeside, hsame⟩ := h.prints (prints_live_line hplain _ none)
    (prints_still_line hplain none) (by rw [hprint]; exact .fresh _) (by rw [hprint]) hstill
    (Text.plain_append.mpr ⟨hplain, by decide⟩) hbeneath
  -- A line that does not go on leaves nothing of the progress text.
  have hcovers : (still.tally.shown).Covers live.console.pending := fun h => absurd h hflat
  exact ⟨hresult, hbeside, hsame.trans (and_iff_left (hrows.mpr hcovers))⟩

/-- The header of an entry covers `n` columns of progress text. -/
def Record.Clears (entry : Record) (n : Nat) : Prop :=
  ∀ a, entry.announcement = some a → a.head.Covers n

/-- **A problem that is told:** from here on the rows are different, unless its
header covers the progress text. -/
theorem Beside.tell {live still : Stage σ} (h : Beside live still) {entry : Record}
    (hplain : entry.Plain) :
    let act := Report.tell (σ := σ) entry.place entry.expression entry.outcome
    (act live).1 = (act still).1 ∧ Beside (act live).2 (act still).2
      ∧ (SameRows (act live).2 (act still).2
        ↔ SameRows live still ∧ entry.Clears live.console.pending) := by
  intro act
  cases hannounced : entry.announcement with
  | none =>
    have hact : act = pure () := Report.tell_success hannounced
    have hclears : entry.Clears live.console.pending := by
      intro a ha
      rw [hannounced] at ha
      cases ha
    rw [hact]
    exact ⟨rfl, h, (and_iff_left hclears).symm⟩
  | some a =>
    have hhead : a.head.Plain := hplain.head hannounced
    have hruled : (Text.ruled entry.outcome.text).Plain := hplain.outcome.ruled
    have hclears : entry.Clears live.console.pending ↔ a.head.Covers live.console.pending := by
      constructor
      · exact fun hall => hall a hannounced
      · intro hcovers a' ha'
        obtain rfl : a = a' := Option.some.inj (hannounced.symm.trans ha')
        exact hcovers
    have hlive : Prints (.live live.console.pending) act
        (Text.overwriting live.console.pending a.head ++ ['\n']
          ++ (Text.ruled entry.outcome.text ++ ['\n'])) 0 := by
      have h := Report.prints_tell (σ := σ)
        (rfl : (Console.live live.console.pending).room = none) hannounced
      rwa [Console.overlay_plain rfl hhead] at h
    have hstill : Prints {} act
        (a.head ++ ['\n'] ++ (Text.ruled entry.outcome.text ++ ['\n'])) 0 := by
      have h := Report.prints_tell (σ := σ) (rfl : ({} : Console).room = none) hannounced
      rwa [Console.overlay_still hhead] at h
    -- Behind the header both consoles stand at the start of an empty row.
    obtain ⟨rows, hprint, hbeneath, hrows⟩ := h.progress.print_line hhead.return_not_mem
    have hprint' : live.screen.print (Text.overwriting live.console.pending a.head ++ ['\n']
          ++ (Text.ruled entry.outcome.text ++ ['\n']))
        = { above := live.screen.above ++ (rows ++ Text.pieces (Text.ruled entry.outcome.text)) } := by
      rw [Terminal.print_append, hprint, Terminal.print_durable hruled.return_not_mem,
        List.append_assoc]
    have hlines : still.screen.print (a.head ++ ['\n']
          ++ (Text.ruled entry.outcome.text ++ ['\n']))
        = { above := still.screen.above
              ++ (Text.pieces a.head ++ Text.pieces (Text.ruled entry.outcome.text)) } := by
      rw [h.finished, Terminal.print_append, Terminal.print_durable hhead.return_not_mem,
        Terminal.print_durable hruled.return_not_mem, List.append_assoc]
    obtain ⟨hresult, hbeside, hsame⟩ := h.prints hlive hstill (by rw [hprint']; exact .fresh _)
      (by rw [hprint']) hlines
      (by simp only [Text.plain_append]; exact ⟨⟨hhead, by decide⟩, hruled, by decide⟩)
      (hbeneath.append (.refl _))
    refine ⟨hresult, hbeside, hsame.trans ?_⟩
    rw [hclears, ← hrows, List.map_append, List.map_append, List.append_left_inj]

/-- **Where no progress text is left,** every line of the still console stands at the
start of its row on the live one, and the rows are the lines, up to trailing spaces,
exactly if those above the cursor are. -/
theorem Beside.ended {live still : Stage σ} (h : Beside live still)
    (hpending : live.console.pending = 0) :
    Beneath (Text.pieces (textOf still.log)) live.screen.rows
      ∧ (live.screen.rows.map trimmed = (Text.pieces (textOf still.log)).map trimmed
        ↔ SameRows live still) := by
  -- Both cursors stand on an empty row.
  have hlive : live.screen.rows = live.screen.above ++ [[]] := by
    unfold Terminal.rows
    rw [(h.progress.empty hpending).1]
  have hpieces : Text.pieces (textOf still.log) = still.screen.above ++ [[]] := by
    rw [← Terminal.rows_print h.plain.return_not_mem]
    show still.screen.rows = _
    rw [h.finished]
    rfl
  rw [hlive, hpieces, List.map_append, List.map_append, List.append_left_inj]
  exact ⟨h.beneath.append (.refl _), Iff.rfl⟩

end Rehearsal
