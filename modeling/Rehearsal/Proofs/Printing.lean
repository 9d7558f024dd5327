/-
  Rehearsal.Proofs.Printing
  ──────────────────────────────────────
  **What a report writes, as text.**

  On a console without a limit the functions of a report end well, and all that
  they do is write a text that is known beforehand, and note the width of the
  progress text.  Each function has its text here, put together from the texts of
  the functions it calls.

    • `Prints.bind` — one text after the other,
    • `Report.prints_overwrite` — a message over the progress text,
    • `Report.prints_problem` — the whole report of a problem.
-/
import Rehearsal.Proofs.Frame

namespace Rehearsal

variable {σ α : Type}

/-! ## §1. The text of a log. -/

/-- The text that an event adds to what was written. -/
def Event.text : Event → Text
  | .wrote text => text
  | _ => []

/-- Everything that was written, as text. -/
def textOf (log : List Event) : Text := log.flatMap Event.text

theorem textOf_append (a b : List Event) : textOf (a ++ b) = textOf a ++ textOf b :=
  List.flatMap_append

theorem textOf_map_wrote (texts : List Text) : textOf (texts.map .wrote) = texts.flatten := by
  induction texts with
  | nil => rfl
  | cons text texts ih => exact congrArg (text ++ ·) ih

/-- A request is no text. -/
theorem textOf_requests {events : List Event} (h : ∀ event ∈ events, event.isRequest = true) :
    textOf events = [] := by
  refine List.flatMap_eq_nil_iff.mpr fun event hevent => ?_
  cases event with
  | wrote text => exact absurd (h _ hevent) (by simp [Event.isRequest])
  | _ => rfl

/-! ## §2. Acts that only print. -/

/-- The stage behind some texts; `pending` columns of progress text stand on the
last line of its console. -/
def Stage.printed (stage : Stage σ) (texts : List Text) (pending : Nat) : Stage σ :=
  { stage with
    console := { stage.console with pending := pending }
    log := stage.log ++ texts.map .wrote }

theorem Stage.printed_printed (stage : Stage σ) (a b : List Text) (p q : Nat) :
    (stage.printed a p).printed b q = stage.printed (a ++ b) q := by
  simp [printed]

/-- With this console the act ends well, writes the text and notes the width. -/
def Prints (console : Console) (act : Act σ Unit) (text : Text) (pending : Nat) : Prop :=
  ∀ stage : Stage σ, stage.console = console → ∃ texts,
    act stage = (.ok (), stage.printed texts pending) ∧ texts.flatten = text

namespace Prints

variable {console : Console} {act : Act σ Unit} {text more : Text} {p q : Nat}

theorem nothing : Prints console (pure () : Act σ Unit) [] console.pending := by
  rintro stage rfl
  refine ⟨[], ?_, rfl⟩
  show (Except.ok (), stage) = _
  simp [Stage.printed]

/-- **One text after the other.**  The second act finds the width that the first
one noted. -/
theorem bind {next : Act σ Unit} (h : Prints console act text p)
    (hn : Prints { console with pending := p } next more q) :
    Prints console (act >>= fun _ => next) (text ++ more) q := by
  rintro stage rfl
  obtain ⟨texts, hact, rfl⟩ := h stage rfl
  obtain ⟨texts', hnext, rfl⟩ := hn (stage.printed texts p) rfl
  refine ⟨texts ++ texts', ?_, List.flatten_append⟩
  show Act.bind act (fun _ => next) stage = _
  rw [Act.bind, hact, ← Stage.printed_printed]
  exact hnext

/-- Behind an act that leaves the width alone. -/
theorem follow {next : Act σ Unit} (h : Prints console act text console.pending)
    (hn : Prints console next more q) : Prints console (act >>= fun _ => next) (text ++ more) q :=
  h.bind hn

theorem look (view : Console → α) {next : α → Act σ Unit}
    (h : Prints console (next (view console)) text p) :
    Prints console (Act.look (fun stage => view stage.console) >>= next) text p := by
  rintro stage rfl
  exact h stage rfl

theorem settle (width : Nat) : Prints console (Report.settle width : Act σ Unit) [] width := by
  rintro stage rfl
  refine ⟨[], ?_, rfl⟩
  show (Except.ok (), _) = _
  simp [Stage.printed]

theorem write (hroom : console.room = none) (text : Text) :
    Prints console (Act.write text : Act σ Unit) text console.pending := by
  rintro stage rfl
  rcases Act.write_cases text stage with ⟨rfl, hact⟩ | ⟨-, -, hact⟩ | ⟨room, hsome, -⟩
  · refine ⟨[], ?_, rfl⟩
    rw [hact]
    simp [Stage.printed]
  · refine ⟨[text], ?_, List.append_nil _⟩
    rw [hact]
    simp [Stage.printed, Console.after, Act.roomAfter, hroom]
  · exact absurd (hroom.symm.trans hsome) (by simp)

end Prints

/-! ## §3. Lines. -/

namespace Console

variable (console : Console)

/-- A message in the color of its header, where the console is colored. -/
def painted (message : Text) : Option Paint → Text
  | none => message
  | some paint =>
      (if console.colored then paint.codes else [])
        ++ (message ++ if console.colored then resetCode else [])

/-- What takes the cursor back to the start of the line. -/
def restart : Text := if console.pending > 0 then ['\r'] else []

/-- A message over the progress text, with what covers the rest of it. -/
def overlay (message : Text) (paint : Option Paint) : Text :=
  console.restart ++ (console.painted message paint
    ++ List.replicate (console.pending - Text.width message) ' ')

end Console

/-- The lines of a text, each with its newline. -/
def Text.ruled (text : Text) : Text := (Text.lines text).flatMap (· ++ ['\n'])

namespace Report

variable {console : Console}

theorem prints_codes (hroom : console.room = none) (codes : Text) :
    Prints console (writeCodes codes : Act σ Unit) (if console.colored then codes else [])
      console.pending := by
  refine Prints.look Console.colored ?_
  by_cases h : console.colored = true
  · simp only [h, if_true]
    exact .write hroom codes
  · simp only [h]
    exact .nothing

/-- **A message over the progress text.** -/
theorem prints_overwrite (hroom : console.room = none) (message : Text) (paint : Option Paint) :
    Prints console (overwrite message paint : Act σ Unit) (console.overlay message paint)
      console.pending := by
  have padding : Prints console
      (Act.write (List.replicate (console.pending - Text.width message) ' ') : Act σ Unit)
      (List.replicate (console.pending - Text.width message) ' ') console.pending :=
    .write hroom _
  refine Prints.look Console.pending ?_
  unfold Console.overlay Console.restart
  cases paint with
  | none =>
    have body := (Prints.write hroom message).follow padding
    by_cases h : console.pending > 0
    · simp only [h, if_true]
      exact (Prints.write hroom _).follow body
    · simp only [h, if_false]
      exact body
  | some paint =>
    have body := (prints_codes hroom paint.codes).follow ((Prints.write hroom message).follow
      ((prints_codes hroom resetCode).follow padding))
    have hpainted : console.painted message (some paint)
          ++ List.replicate (console.pending - Text.width message) ' '
        = (if console.colored then paint.codes else []) ++ (message
          ++ ((if console.colored then resetCode else [])
            ++ List.replicate (console.pending - Text.width message) ' ')) := by
      simp only [Console.painted, List.append_assoc]
    rw [hpainted]
    by_cases h : console.pending > 0
    · simp only [h, if_true]
      exact (Prints.write hroom _).follow body
    · simp only [h, if_false]
      exact body

/-- A durable line. -/
theorem prints_line (hroom : console.room = none) (message : Text) (paint : Option Paint) :
    Prints console (line message paint : Act σ Unit) (console.overlay message paint ++ ['\n']) 0 := by
  have h := (prints_overwrite (σ := σ) hroom message paint).follow
    ((Prints.write hroom ['\n']).follow (.settle 0))
  rwa [List.append_nil] at h

/-- Where no progress text stands, a message is only itself. -/
theorem overlay_fresh (hpending : console.pending = 0) (message : Text) :
    console.overlay message none = message := by
  simp [Console.overlay, Console.restart, Console.painted, hpending]

/-- Durable lines below each other. -/
theorem prints_rows (hroom : console.room = none) (hpending : console.pending = 0)
    (rows : List Text) :
    Prints console (Act.each plainLine rows : Act σ Unit) (rows.flatMap (· ++ ['\n'])) 0 := by
  induction rows with
  | nil =>
    rw [← hpending]
    exact .nothing
  | cons row rows ih =>
    have hline := prints_line (σ := σ) hroom row none
    rw [overlay_fresh hpending, ← hpending] at hline
    exact hline.follow ih

theorem prints_block (hroom : console.room = none) (hpending : console.pending = 0)
    (text : Text) : Prints console (block text : Act σ Unit) (Text.ruled text) 0 :=
  prints_rows hroom hpending (Text.lines text)

/-- **The report of a problem:** its header, its lines and an empty line. -/
theorem prints_problem (hroom : console.room = none) (head : Text) (paint : Paint) (text : Text) :
    Prints console (problem head paint text : Act σ Unit)
      (console.overlay head (some paint) ++ ['\n'] ++ (Text.ruled text ++ ['\n'])) 0 := by
  -- Behind the header, no progress text stands any more.
  have hroom' : ({ console with pending := 0 } : Console).room = none := hroom
  exact (prints_line hroom head (some paint)).bind
    (Prints.follow (prints_block hroom' rfl text) (prints_line hroom' [] none))

/-- A progress line, which only an interactive console shows. -/
theorem prints_progress (hroom : console.room = none) (message : Text) :
    Prints console (progress message : Act σ Unit)
      (if console.interactive then console.overlay message none else [])
      (if console.interactive then Text.width message else console.pending) := by
  refine Prints.look Console.interactive ?_
  by_cases h : console.interactive = true
  · simp only [h, if_true]
    have h := (prints_overwrite (σ := σ) hroom message none).follow (.settle (Text.width message))
    rwa [List.append_nil] at h
  · simp only [h]
    exact .nothing

end Report

/-! ## §4. Outcomes. -/

/-- The text that an outcome comes with. -/
def Outcome.text : Outcome → Text
  | .success => []
  | .failure diagnostic => diagnostic
  | .error message => message

/-- How a problem is announced. -/
structure Announcement where
  head : Text
  paint : Paint
  deriving DecidableEq, Repr

/-- The header of an entry, as it is written; a success has none. -/
def Record.announcement (entry : Record) : Option Announcement :=
  match entry.outcome with
  | .success => none
  | .failure _ => some ⟨("### Failure in " : Text) ++ entry.place.shown
      ++ (": expression `" : Text) ++ entry.expression ++ ("'" : Text), .red⟩
  | .error _ => some ⟨("### Error in " : Text) ++ entry.place.shown
      ++ (": expression `" : Text) ++ entry.expression ++ ("'" : Text), .yellow⟩

namespace Report

variable {console : Console} {entry : Record}

/-- Of a success nothing is told. -/
theorem tell_success (h : entry.announcement = none) :
    tell (σ := σ) entry.place entry.expression entry.outcome = pure () := by
  unfold Record.announcement at h
  cases hentry : entry.outcome with
  | success => rfl
  | failure diagnostic => simp [hentry] at h
  | error message => simp [hentry] at h

/-- **What is told of a problem.** -/
theorem prints_tell (hroom : console.room = none) {a : Announcement}
    (h : entry.announcement = some a) :
    Prints console (tell entry.place entry.expression entry.outcome : Act σ Unit)
      (console.overlay a.head (some a.paint) ++ ['\n']
        ++ (Text.ruled entry.outcome.text ++ ['\n'])) 0 := by
  unfold Record.announcement at h
  cases hentry : entry.outcome with
  | success => simp [hentry] at h
  | failure diagnostic =>
    simp only [hentry, Option.some.injEq] at h
    subst h
    -- The program puts the same header together from its parts.
    exact prints_problem hroom _ _ diagnostic
  | error message =>
    simp only [hentry, Option.some.injEq] at h
    subst h
    exact prints_problem hroom _ _ message

end Report

end Rehearsal
