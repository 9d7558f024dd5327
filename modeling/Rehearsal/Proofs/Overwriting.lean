/-
  Rehearsal.Proofs.Overwriting
  ──────────────────────────────────────
  **Any sequence of reports on a live console.**

  A progress text that is empty still covers the one that it replaces, and leaves
  the cursor behind the spaces that it covers it with; but as it is empty, no
  carriage return comes in front of what is written next.  So the next message is
  moved to the right by these spaces.  As long as this does not happen, a terminal
  shows the durable messages, one below the other, and the latest progress text.

    • `Stands.print_message` — where a message comes to stand,
    • `Stands.print_progress`, `Stands.print_rows` — one call,
    • `Report.calls_shown_iff` — when a terminal shows what was reported.
-/
import Mathlib.Data.List.DropRight
import Rehearsal.Proofs.Screen

namespace Rehearsal

open Text (trimmed overwriting)

/-! ## §1. Calls, and what they are to show. -/

namespace Report

variable {σ : Type}

/-- A call that writes to a report. -/
inductive Call where
  /-- A durable line. -/
  | line (message : Text)
  /-- Progress text, which the next call overwrites. -/
  | progress (message : Text)
  /-- Durable lines below each other. -/
  | block (text : Text)
  deriving DecidableEq, Repr

namespace Call

/-- Makes the call. -/
def act : Call → Act σ Unit
  | line message => plainLine message
  | progress message => Report.progress message
  | block text => Report.block text

/-- Printable ASCII characters; only a block has newlines. -/
def Plain : Call → Prop
  | line message => message.Plain ∧ '\n' ∉ message
  | progress message => message.Plain ∧ '\n' ∉ message
  | block text => text.Plain

instance : ∀ call : Call, Decidable call.Plain
  | line message => inferInstanceAs (Decidable (message.Plain ∧ '\n' ∉ message))
  | progress message => inferInstanceAs (Decidable (message.Plain ∧ '\n' ∉ message))
  | block text => inferInstanceAs (Decidable text.Plain)

/-- The first message that the call writes. -/
def first? : Call → Option Text
  | line message => some message
  | progress message => some message
  | block text => (Text.lines text).head?

/-- The first message that the call writes shows nothing but spaces. -/
def Blank (call : Call) : Prop := ∀ message ∈ call.first?, trimmed message = []

instance (call : Call) : Decidable call.Blank :=
  inferInstanceAs (Decidable (∀ message ∈ call.first?, trimmed message = []))

end Call

/-- What a terminal is to show: the durable messages, and the latest progress text
if there is no durable message behind it. -/
structure Display where
  finished : List Text := []
  current : Text := []
  deriving DecidableEq, Repr

namespace Display

/-- What is to be shown after a call. -/
def after (d : Display) : Call → Display
  | .line message => { finished := d.finished ++ [message], current := [] }
  | .progress message => { d with current := message }
  | .block text =>
      if Text.lines text = [] then d
      else { finished := d.finished ++ Text.lines text, current := [] }

/-- What is to be shown after some calls. -/
def afterAll (d : Display) (calls : List Call) : Display := calls.foldl after d

end Display

/-- Where the cursor stands. -/
inductive Cursor where
  /-- On an empty row. -/
  | fresh
  /-- Behind progress text, which the next message overwrites. -/
  | held
  /-- Behind the spaces that cover an earlier progress text. -/
  | stranded
  deriving DecidableEq, Repr

namespace Cursor

/-- Where the cursor stands after a call. -/
def after (cursor : Cursor) : Call → Cursor
  | .line _ => fresh
  -- Empty progress text erases what it replaces, but nothing will overwrite it.
  | .progress message =>
      if message ≠ [] then held else if cursor = fresh then fresh else stranded
  | .block text => if Text.lines text = [] then cursor else fresh

end Cursor

/-- Where the cursor is stranded, no call writes anything visible. -/
def Clear : Cursor → List Call → Prop
  | _, [] => True
  | cursor, call :: calls => (cursor = .stranded → call.Blank) ∧ Clear (cursor.after call) calls

instance decidableClear : ∀ cursor calls, Decidable (Clear cursor calls)
  | _, [] => isTrue trivial
  | cursor, call :: calls =>
      have := decidableClear (cursor.after call) calls
      inferInstanceAs (Decidable ((cursor = .stranded → call.Blank) ∧ _))

end Report

/-- The terminal shows this, up to trailing spaces. -/
def Terminal.Shows (t : Terminal) (d : Report.Display) : Prop :=
  t.above.map trimmed = d.finished.map trimmed ∧ t.row.trimmed = d.current.trimmed

instance (t : Terminal) (d : Report.Display) : Decidable (t.Shows d) :=
  inferInstanceAs (Decidable (_ ∧ _))

/-! ## §2. Where messages come to stand. -/

namespace Text

theorem trimmed_replicate (n : Nat) : trimmed (List.replicate n ' ') = [] := trimmed_spaces [] n

/-- Spaces may stand in front of a blank message or behind it. -/
theorem moved_blank {message : Text} (h : trimmed message = []) (n : Nat) :
    List.replicate n ' ' ++ message = message ++ List.replicate n ' ' := by
  have hspaces : message = List.replicate message.length ' ' := by
    refine List.eq_replicate_iff.mpr ⟨rfl, fun c hc => ?_⟩
    exact of_decide_eq_true (List.rdropWhile_eq_nil_iff.mp h c hc)
  rw [hspaces, List.replicate_append_replicate, List.replicate_append_replicate, Nat.add_comm]

/-- **A message that is moved to the right** looks the same only if it is blank. -/
theorem trimmed_moved_iff (n : Nat) (message : Text) :
    trimmed (List.replicate n ' ' ++ message) = trimmed message
      ↔ n = 0 ∨ trimmed message = [] := by
  have happend := dropEndWhile_append (· = ' ') (List.replicate n ' ') message
  change trimmed _ = if trimmed message = [] then trimmed _ else _ ++ trimmed message at happend
  rw [happend, trimmed_replicate]
  by_cases hblank : trimmed message = []
  · simp [hblank]
  · simp [hblank]

end Text

namespace Terminal

open Text Report

/-- The cursor's row shows this text, and the cursor stands where it is known to. -/
inductive Stands : Terminal → Cursor → Text → Prop
  | fresh (above : List Text) : Stands { above := above } .fresh []
  | held (above : List Text) {message : Text} (blanks column : Nat) (hne : message ≠ []) :
      Stands { above, row := message ++ List.replicate blanks ' ', column } .held message
  | stranded (above : List Text) {blanks column : Nat} (hpos : 0 < column)
      (hle : column ≤ blanks) :
      Stands { above, row := List.replicate blanks ' ', column } .stranded []

namespace Stands

variable {t : Terminal} {cursor : Cursor} {current message : Text}

/-- Over progress text, the cursor goes back first, and ends behind the spaces that
cover the rest of the progress text. -/
theorem print_held (above : List Text) (blanks column : Nat) (hne : current ≠ [])
    (hreturn : '\r' ∉ message) (hnewline : '\n' ∉ message) :
    ∃ blanks' : Nat, current.length - message.length ≤ blanks'
      ∧ ({ above, row := current ++ List.replicate blanks ' ', column } : Terminal).print
          (overwriting current.length message)
        = { above
            row := message ++ List.replicate blanks' ' '
            column := message.length + (current.length - message.length) } := by
  have hpos : current.length > 0 := List.length_pos_iff.mpr hne
  have hr : '\r' ∉ message ++ List.replicate (current.length - message.length) ' ' := by
    simp [hreturn]
  have hn : '\n' ∉ message ++ List.replicate (current.length - message.length) ' ' := by
    simp [hnewline]
  have hlength : (message ++ List.replicate (current.length - message.length) ' ').length
      = message.length + (current.length - message.length) := by
    rw [List.length_append, List.length_replicate]
  have hover := print_over hr hn above (current ++ List.replicate blanks ' ')
  rw [hlength, drop_blanks blanks (by omega), List.append_assoc,
    List.replicate_append_replicate] at hover
  have hprint : ({ above, row := current ++ List.replicate blanks ' ', column } : Terminal).print
        (overwriting current.length message)
      = ({ above, row := current ++ List.replicate blanks ' ' } : Terminal).print
        (message ++ List.replicate (current.length - message.length) ' ') := by
    unfold overwriting
    rw [if_pos hpos, print_append, print_return]
  refine ⟨_, ?_, hprint.trans hover⟩
  exact Nat.le_add_right _ _

/-- **Where a message comes to stand:** at the start of the row, unless the cursor
is stranded. -/
theorem print_message (h : t.Stands cursor current) (hreturn : '\r' ∉ message)
    (hnewline : '\n' ∉ message) :
    ∃ margin blanks column, t.print (overwriting current.length message)
        = { above := t.above
            row := List.replicate margin ' ' ++ message ++ List.replicate blanks ' '
            column := column }
      ∧ (margin = 0 ↔ cursor ≠ .stranded) := by
  cases h with
  | fresh above =>
    refine ⟨0, 0, message.length, ?_, by simp⟩
    rw [List.length_nil, overwriting_nothing, print_over hreturn hnewline]
    simp
  | held above blanks column hne =>
    obtain ⟨blanks', -, hprint⟩ := print_held above blanks column hne hreturn hnewline
    exact ⟨0, blanks', _, hprint, by simp⟩
  | @stranded above blanks column hpos hle =>
    -- No carriage return is written, so the message starts at the cursor.
    refine ⟨column, blanks - (column + message.length), column + message.length, ?_, ?_⟩
    · rw [List.length_nil, overwriting_nothing, print_cells hreturn hnewline _ (by simpa using hle)]
      simp [Nat.min_eq_left hle]
    · simpa using Nat.pos_iff_ne_zero.mp hpos

/-- Empty progress text leaves nothing of the one before, but the cursor does not
go back. -/
theorem print_nothing (h : t.Stands cursor current) :
    (t.print (overwriting current.length [])).above = t.above
      ∧ (t.print (overwriting current.length [])).Stands (cursor.after (.progress [])) [] := by
  cases h with
  | fresh above => exact ⟨rfl, .fresh above⟩
  | held above blanks column hne =>
    obtain ⟨blanks', hle, hprint⟩ :=
      print_held above blanks column hne List.not_mem_nil List.not_mem_nil
    rw [hprint]
    refine ⟨rfl, .stranded above ?_ ?_⟩
    · have hpos := List.length_pos_iff.mpr hne
      simpa using hpos
    · simpa using hle
  | @stranded above blanks column hpos hle => exact ⟨rfl, .stranded above hpos hle⟩

/-- The row shows the progress text. -/
theorem trimmed_row (h : t.Stands cursor current) : trimmed t.row = trimmed current := by
  cases h with
  | fresh above => rfl
  | held above blanks column hne => exact trimmed_spaces _ _
  | stranded above hpos hle => exact trimmed_replicate _

/-- What a message looks like where it comes to stand. -/
theorem trimmed_at_iff {margin : Nat} (hmargin : margin = 0 ↔ cursor ≠ .stranded) (blanks : Nat) :
    trimmed (List.replicate margin ' ' ++ message ++ List.replicate blanks ' ') = trimmed message
      ↔ (cursor = .stranded → trimmed message = []) := by
  rw [trimmed_spaces, Text.trimmed_moved_iff, hmargin, ne_eq,
    Decidable.imp_iff_not_or]

/-- **Progress text** is shown, unless it is visible and the cursor is stranded. -/
theorem print_progress (h : t.Stands cursor current) (hreturn : '\r' ∉ message)
    (hnewline : '\n' ∉ message) :
    (t.print (overwriting current.length message)).above = t.above
      ∧ (trimmed (t.print (overwriting current.length message)).row = trimmed message
        ↔ (cursor = .stranded → trimmed message = []))
      ∧ ((cursor = .stranded → trimmed message = []) →
        (t.print (overwriting current.length message)).Stands (cursor.after (.progress message))
          message) := by
  -- Empty text is all that can leave the cursor stranded.
  by_cases hne : message = []
  · subst hne
    obtain ⟨habove, hstands⟩ := h.print_nothing
    exact ⟨habove, iff_of_true hstands.trimmed_row fun _ => rfl, fun _ => hstands⟩
  · obtain ⟨margin, blanks, column, hprint, hmargin⟩ := h.print_message hreturn hnewline
    rw [hprint]
    refine ⟨rfl, trimmed_at_iff hmargin blanks, fun hclear => ?_⟩
    have hcursor : cursor.after (.progress message) = .held := if_pos hne
    have hrow : List.replicate margin ' ' ++ message ++ List.replicate blanks ' '
        = message ++ List.replicate (margin + blanks) ' ' := by
      by_cases hstranded : cursor = .stranded
      · -- The message is blank, so what stands in front of it may stand behind it.
        rw [moved_blank (hclear hstranded), List.append_assoc, List.replicate_append_replicate]
      · rw [hmargin.mpr hstranded, List.replicate_zero, List.nil_append, Nat.zero_add]
    rw [hcursor, hrow]
    exact .held _ _ _ hne

/-- **Durable lines** are shown, unless the first one is visible and the cursor is
stranded. -/
theorem print_rows (h : t.Stands cursor current) {rows : List Text}
    (hreturn : ∀ row ∈ message :: rows, '\r' ∉ row)
    (hnewline : ∀ row ∈ message :: rows, '\n' ∉ row) :
    ∃ shown, t.print (overwriting current.length message ++ ['\n'] ++ rows.flatMap (· ++ ['\n']))
        = { above := t.above ++ shown :: rows }
      ∧ (trimmed shown = trimmed message ↔ (cursor = .stranded → trimmed message = [])) := by
  obtain ⟨hr, hreturn⟩ := List.forall_mem_cons.mp hreturn
  obtain ⟨hn, hnewline⟩ := List.forall_mem_cons.mp hnewline
  obtain ⟨margin, blanks, column, hprint, hmargin⟩ := h.print_message hr hn
  refine ⟨_, ?_, trimmed_at_iff hmargin blanks⟩
  rw [print_append, print_append, hprint, print_newline, print_lines hreturn hnewline,
    List.append_assoc]
  rfl

end Stands

end Terminal

/-! ## §3. Calls on a live console. -/

variable {σ : Type}

open Report (Call Cursor Display Clear)

/-- A call is made of the parts of a report. -/
theorem Report.Family.call {Q : Act.Quality σ} (w : Report.Family Q) (call : Call) : Q call.act := by
  cases call with
  | line message => exact w.line message none
  | progress message => exact w.progress message
  | block text => exact w.block text

/-- Calls end well where there is no limit on the room. -/
theorem Report.calls_ok (calls : List Call) (stage : Stage σ) (hroom : stage.console.room = none) :
    (Act.each Call.act calls stage).1 = .ok () := by
  have hunmoved := Frame.unmoved_writes.each Frame.unmoved_writes.call calls stage
  have hunlimited := Frame.unlimited_writes.each Frame.unlimited_writes.call calls stage
  cases h : (Act.each Call.act calls stage).1 with
  | ok u => rfl
  | error fault => exact absurd (hunmoved.2 fault h) (hunlimited.2 fault h hroom)

/-- A live console whose terminal shows this, up to trailing spaces. -/
structure Stage.Displays (stage : Stage σ) (cursor : Cursor) (d : Display) : Prop where
  console : stage.console = .live d.current.length
  stands : stage.screen.Stands cursor d.current
  finished : stage.screen.above.map trimmed = d.finished.map trimmed

namespace Stage.Displays

variable {stage : Stage σ} {cursor : Cursor} {d : Display} {call : Call}

theorem shows (h : stage.Displays cursor d) : stage.screen.Shows d :=
  ⟨h.finished, h.stands.trimmed_row⟩

/-- The call ends well.  It breaks the display exactly if the cursor is stranded and
it writes something visible. -/
structure Follows (cursor : Cursor) (d : Display) (call : Call)
    (done : Except RunFault Unit × Stage σ) : Prop where
  ok : done.1 = .ok ()
  shows_iff : done.2.screen.Shows (d.after call) ↔ (cursor = .stranded → call.Blank)
  displays : (cursor = .stranded → call.Blank) →
    done.2.Displays (cursor.after call) (d.after call)

/-- What a call prints decides what is shown. -/
theorem follows_prints (h : stage.Displays cursor d) {text : Text}
    (hprints : Prints (.live d.current.length) (call.act : Act σ Unit) text
      (d.after call).current.length)
    (hshows : (stage.screen.print text).Shows (d.after call)
      ↔ (cursor = .stranded → call.Blank))
    (hstands : (cursor = .stranded → call.Blank) →
      (stage.screen.print text).Stands (cursor.after call) (d.after call).current) :
    Follows cursor d call (call.act stage) := by
  obtain ⟨texts, hact, rfl⟩ := hprints stage h.console
  rw [hact]
  have hscreen := stage.screen_printed texts (d.after call).current.length
  refine ⟨rfl, ?_, fun hclear => ⟨?_, ?_, ?_⟩⟩
  · rw [hscreen]
    exact hshows
  · show { stage.console with pending := (d.after call).current.length } = _
    rw [h.console]
    rfl
  · rw [hscreen]
    exact hstands hclear
  · rw [hscreen]
    exact (hshows.mpr hclear).1

theorem follows_progress (h : stage.Displays cursor d) {message : Text} (hplain : message.Plain)
    (hflat : '\n' ∉ message) :
    Follows cursor d (.progress message) ((Call.progress message).act stage) := by
  have hprints := Report.prints_progress (σ := σ) (rfl : (Console.live d.current.length).room = none)
    message
  rw [Console.overlay_plain rfl hplain, hplain.width_eq] at hprints
  obtain ⟨habove, hrow, hstands⟩ := h.stands.print_progress hplain.return_not_mem hflat
  have hblank : (Call.progress message).Blank ↔ trimmed message = [] := by
    simp [Call.Blank, Call.first?]
  refine h.follows_prints hprints ?_ ?_
  · rw [hblank]
    refine (and_iff_right ?_).trans hrow
    exact (congrArg _ habove).trans h.finished
  · rw [hblank]
    exact hstands

/-- Durable lines, the first of which is put over the progress text. -/
theorem follows_rows (h : stage.Displays cursor d) {message : Text} {rows : List Text}
    (hplain : ∀ row ∈ message :: rows, row.Plain ∧ '\n' ∉ row)
    (hact : (call.act : Act σ Unit) = Act.each Report.plainLine (message :: rows))
    (hfirst : call.first? = some message)
    (hcursor : cursor.after call = .fresh)
    (hafter : d.after call = { finished := d.finished ++ message :: rows, current := [] }) :
    Follows cursor d call (call.act stage) := by
  have hline := prints_live_line (σ := σ) (hplain message (List.mem_cons_self ..)).1
    d.current.length none
  have hprints : Prints (.live d.current.length) (call.act : Act σ Unit)
      (overwriting d.current.length message ++ ['\n'] ++ rows.flatMap (· ++ ['\n']))
      (d.after call).current.length := by
    rw [hact, hafter]
    exact hline.bind (Report.prints_rows rfl rfl rows)
  obtain ⟨shown, hprint, hshown⟩ := h.stands.print_rows
    (fun row hrow => (hplain row hrow).1.return_not_mem) fun row hrow => (hplain row hrow).2
  have hblank : call.Blank ↔ trimmed message = [] := by
    simp [Call.Blank, hfirst]
  refine h.follows_prints hprints ?_ ?_
  · rw [hprint, hafter, hblank, ← hshown]
    unfold Terminal.Shows
    rw [List.map_append, List.map_append, h.finished, List.append_right_inj, List.map_cons,
      List.map_cons]
    simp
  · intro _
    rw [hprint, hafter, hcursor]
    exact .fresh _

/-- **One call.** -/
theorem follows (h : stage.Displays cursor d) (hplain : call.Plain) :
    Follows cursor d call (call.act stage) := by
  cases call with
  | progress message => exact h.follows_progress hplain.1 hplain.2
  | line message =>
    have hrow : ∀ row ∈ [message], row.Plain ∧ '\n' ∉ row :=
      fun row hrow => List.mem_singleton.mp hrow ▸ hplain
    exact h.follows_rows hrow (Act.bind_nothing _).symm rfl rfl rfl
  | block text =>
    have hrows : ∀ row ∈ Text.lines text, row.Plain ∧ '\n' ∉ row := fun row hrow =>
      ⟨Text.Plain.line hplain hrow, Text.newline_not_mem_lines hrow⟩
    have hact : ((Call.block text).act : Act σ Unit)
        = Act.each Report.plainLine (Text.lines text) := rfl
    have hfirst : (Call.block text).first? = (Text.lines text).head? := rfl
    have hcursor : cursor.after (.block text)
        = if Text.lines text = [] then cursor else .fresh := rfl
    have hafter : d.after (.block text) = if Text.lines text = [] then d
        else { finished := d.finished ++ Text.lines text, current := [] } := rfl
    cases hlines : Text.lines text with
    | nil =>
      -- A block without lines writes nothing.
      rw [hlines] at hact hfirst hcursor hafter
      have hdone : (Call.block text).act stage = (.ok (), stage) := congrFun hact stage
      have hblank : (Call.block text).Blank := by simp [Call.Blank, hfirst]
      rw [if_pos rfl] at hcursor hafter
      rw [hdone]
      refine ⟨rfl, ?_, fun _ => ?_⟩
      · rw [hafter]
        exact iff_of_true h.shows fun _ => hblank
      · rw [hafter, hcursor]
        exact h
    | cons message rows =>
      rw [hlines] at hrows hact hfirst hcursor hafter
      exact h.follows_rows hrows hact hfirst hcursor hafter

/-- **One call after the other.** -/
theorem all_shown_iff {calls : List Call} (h : stage.Displays cursor d)
    (hplain : ∀ call ∈ calls, call.Plain) :
    (∀ k, (Act.each Call.act (calls.take k) stage).2.screen.Shows (d.afterAll (calls.take k)))
      ↔ Clear cursor calls := by
  -- The first call either keeps a display, from which the other calls go on, or
  -- it has broken the display already.
  induction calls generalizing stage cursor d with
  | nil => exact iff_of_true (fun k => by rw [List.take_nil]; exact h.shows) trivial
  | cons call calls ih =>
    obtain ⟨hcall, hcalls⟩ := List.forall_mem_cons.mp hplain
    have hfollows := h.follows hcall
    have hrest : ∀ k, Act.each Call.act ((call :: calls).take (k + 1)) stage
        = Act.each Call.act (calls.take k) (call.act stage).2 :=
      fun k => Act.bind_of_ok hfollows.ok
    constructor
    · intro hall
      have hfirst := hall 1
      rw [hrest 0] at hfirst
      have hclear := hfollows.shows_iff.mp hfirst
      refine ⟨hclear, (ih (hfollows.displays hclear) hcalls).mp fun k => ?_⟩
      have hnext := hall (k + 1)
      rwa [hrest] at hnext
    · rintro ⟨hclear, hothers⟩ k
      cases k with
      | zero => exact h.shows
      | succ k =>
        rw [hrest]
        exact (ih (hfollows.displays hclear) hcalls).mpr hothers k

end Stage.Displays

/-! ## §4. All calls. -/

/-- **Overwriting in place.**  On a live console all calls end well.  After each of
them the terminal shows, up to trailing spaces, the durable messages so far, one
below the other, and the latest progress text, exactly if no call writes anything
visible where the cursor stands behind the spaces that empty progress text has
covered an earlier one with. -/
theorem Report.calls_shown_iff (session : σ) (calls : List Call)
    (hplain : ∀ call ∈ calls, call.Plain) :
    (∀ k, (Act.each Call.act (calls.take k)
        ({ session, console := { interactive := true } } : Stage σ)).1 = .ok ())
      ∧ ((∀ k, (Act.each Call.act (calls.take k)
          ({ session, console := { interactive := true } } : Stage σ)).2.screen.Shows
            (Display.afterAll {} (calls.take k)))
        ↔ Clear .fresh calls) :=
  ⟨fun _ => Report.calls_ok _ _ rfl,
    Stage.Displays.all_shown_iff ⟨rfl, .fresh [], rfl⟩ hplain⟩

/-- Calls of all kinds, with empty progress text among them. -/
def sampleCalls : List Call :=
  [.progress "12/100", .progress "3", .block "foo\n\nbar", .progress [], .line "baz",
    .progress "4 ", .progress [], .block [], .line "  ", .progress "5", .line [], .progress "6"]

/-- What is blank may be written where the cursor is stranded. -/
theorem calls_shown_iff_sample :
    (Act.each Call.act sampleCalls
        ({ session := (), console := { interactive := true } } : Stage Unit)).2.screen.Shows
      { finished := ["foo", [], "bar", "baz", "  ", []], current := "6" } := by
  have hplain : ∀ call ∈ sampleCalls, call.Plain := by decide
  exact (Report.calls_shown_iff () sampleCalls hplain).2.mpr (by decide) 12

/-- **Overwriting does not always work:** behind empty progress text over `abc`, a
line comes to stand three columns to the right. -/
theorem calls_not_shown :
    ¬ ∀ calls : List Call, (∀ call ∈ calls, call.Plain) → ∀ k,
        (Act.each Call.act (calls.take k)
          ({ session := (), console := { interactive := true } } : Stage Unit)).2.screen.Shows
            (Display.afterAll {} (calls.take k)) := by
  intro hshown
  have hlast := hshown [.progress "abc", .progress [], .line "xy"] (by decide) 3
  exact absurd hlast (by decide +kernel)

end Rehearsal
