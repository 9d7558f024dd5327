/-
  Rehearsal.Proofs.Terminal
  ──────────────────────────────────────
  **What a terminal shows of a text that overwrites itself.**

  A terminal holds rows of cells and a cursor.  A carriage return takes the cursor
  back without erasing anything, so what a shorter text leaves of a longer one
  stays visible.  A message that is put over progress text leaves none of it,
  unless it breaks off in its first line: the spaces that cover the rest of the
  progress text come at the end of the message, and that is on another row then.

    • `print_fresh` — on an empty row, a terminal shows the pieces of a text,
    • `Holds.print_progress`, `Holds.print_line` — a message over progress text.
-/
import Rehearsal.Proofs.Cutting
import Rehearsal.Text.Width

namespace Rehearsal

/-! ## §1. Plain text. -/

namespace Text

/-- A newline or a printable ASCII character. -/
def isPlain (c : Char) : Bool := c = '\n' || (0x20 ≤ c.toNat && c.toNat ≤ 0x7E)

/-- Nothing but newlines and printable ASCII characters. -/
def Plain (t : Text) : Prop := ∀ c ∈ t, isPlain c = true

instance (t : Text) : Decidable t.Plain :=
  decidable_of_iff (t.all isPlain = true) List.all_eq_true

theorem plain_append {a b : Text} : Plain (a ++ b) ↔ a.Plain ∧ b.Plain := List.forall_mem_append

theorem Plain.return_not_mem {t : Text} (h : t.Plain) : '\r' ∉ t :=
  fun hmem => absurd (h _ hmem) (by decide)

/-- A plain character takes one column, whatever plain text it stands in front of. -/
theorem widthBefore_plain {c : Char} (hc : isPlain c = true) {next : Next}
    (hnext : next.emojiSelector = false) :
    (widthBefore c next).1 = 1 ∧ (widthBefore c next).2.emojiSelector = false := by
  have hreturn : c ≠ '\r' := by
    rintro rfl
    exact absurd hc (by decide)
  have hlow : c.toNat ≤ 0xA0 := by
    unfold isPlain at hc
    by_cases h : c = '\n'
    · rw [h]
      decide
    · simp [h] at hc
      omega
  unfold widthBefore
  simp only [hnext, Bool.false_and, Bool.false_eq_true, if_false, if_pos hlow, hreturn, decide_false]
  split <;> exact ⟨rfl, rfl⟩

/-- **A plain text takes as many columns as it has characters.** -/
theorem Plain.width_eq {t : Text} (h : t.Plain) : width t = t.length := by
  have hsum : (widthAndKind t).1 = t.length ∧ (widthAndKind t).2.emojiSelector = false := by
    induction t with
    | nil => exact ⟨rfl, rfl⟩
    | cons c t ih =>
      obtain ⟨hc, ht⟩ := List.forall_mem_cons.mp h
      obtain ⟨hlength, hnext⟩ := ih ht
      obtain ⟨hone, hkind⟩ := widthBefore_plain hc hnext
      refine ⟨?_, hkind⟩
      show (widthAndKind t).1 + (widthBefore c (widthAndKind t).2).1 = _
      rw [hlength, hone, List.length_cons]
      rfl
  unfold width
  rw [hsum.1]
  exact Int.toNat_natCast _

/-- The text without the spaces at its end. -/
def trimmed (t : Text) : Text := dropEndWhile (· = ' ') t

theorem trimmed_spaces (t : Text) (n : Nat) : trimmed (t ++ List.replicate n ' ') = trimmed t :=
  dropEndWhile_append_replicate (decide_eq_true rfl) t n

theorem trimmed_eq_self {t : Text} (h : t.getLast? ≠ some ' ') : trimmed t = t := by
  refine dropEndWhile_eq_self fun c hc => decide_eq_false ?_
  rintro rfl
  exact h hc

theorem trimmed_isPrefix (t : Text) : trimmed t <+: t := dropEndWhile_isPrefix _ t

/-- Behind a text there is nothing but the spaces behind it. -/
theorem drop_blanks {t : Text} (blanks : Nat) {k : Nat} (h : t.length ≤ k) :
    (t ++ List.replicate blanks ' ').drop k = List.replicate (blanks - (k - t.length)) ' ' := by
  rw [List.drop_append, List.drop_of_length_le h, List.drop_replicate, List.nil_append]

/-- What stands in front of the first newline. -/
def firstLine (t : Text) : Text := t.takeWhile (· ≠ '\n')

theorem firstLine_append {line : Text} (h : '\n' ∉ line) (more : Text) :
    firstLine (line ++ '\n' :: more) = line := by
  unfold firstLine
  rw [List.takeWhile_append_of_pos]
  · simp
  · intro c hc
    exact decide_eq_true fun heq => h (heq ▸ hc)

/-- If the text goes on behind its first line, this line has at least `n` columns. -/
def Covers (t : Text) (n : Nat) : Prop := '\n' ∈ t → n ≤ t.firstLine.length

end Text

/-! ## §2. Terminals. -/

/-- A terminal of unlimited width. -/
structure Terminal where
  /-- The rows above the cursor, the first one first. -/
  above : List Text := []
  /-- The cells of the cursor's row. -/
  row : Text := []
  column : Nat := 0
  deriving DecidableEq, Repr

namespace Terminal

open Text

/-- Takes a character. -/
def put (t : Terminal) (c : Char) : Terminal :=
  if c = '\r' then { t with column := 0 }
  else if c = '\n' then { above := t.above ++ [t.row] }
  else { t with row := t.row.take t.column ++ c :: t.row.drop (t.column + 1), column := t.column + 1 }

/-- Takes a text. -/
def print (t : Terminal) (text : Text) : Terminal := text.foldl put t

/-- Everything that is visible. -/
def rows (t : Terminal) : List Text := t.above ++ [t.row]

theorem print_append (t : Terminal) (a b : Text) : t.print (a ++ b) = (t.print a).print b :=
  List.foldl_append

theorem print_return (t : Terminal) : t.print ['\r'] = { t with column := 0 } := rfl

theorem print_newline (t : Terminal) : t.print ['\n'] = { above := t.above ++ [t.row] } := rfl

/-- Without a newline, a text fills cells from the cursor on. -/
theorem print_cells {text : Text} (hreturn : '\r' ∉ text) (hnewline : '\n' ∉ text) (t : Terminal)
    (hcolumn : t.column ≤ t.row.length) :
    t.print text = { t with
      row := t.row.take t.column ++ text ++ t.row.drop (t.column + text.length)
      column := t.column + text.length } := by
  induction text generalizing t with
  | nil => simp [print]
  | cons c text ih =>
    have hput : t.put c = { t with
        row := t.row.take t.column ++ c :: t.row.drop (t.column + 1), column := t.column + 1 } := by
      unfold put
      rw [if_neg, if_neg]
      · rintro rfl
        exact hnewline (List.mem_cons_self ..)
      · rintro rfl
        exact hreturn (List.mem_cons_self ..)
    have htake : (t.row.take t.column).length = t.column := List.length_take_of_le hcolumn
    show (t.put c).print text = _
    rw [hput, ih (fun h => hreturn (List.mem_cons_of_mem c h))
      (fun h => hnewline (List.mem_cons_of_mem c h))]
    · have hbefore : (t.row.take t.column ++ c :: t.row.drop (t.column + 1)).take (t.column + 1)
          = t.row.take t.column ++ [c] := by
        rw [List.take_append, htake, Nat.add_sub_cancel_left, List.take_of_length_le (by omega)]
        rfl
      have hbehind : (t.row.take t.column ++ c :: t.row.drop (t.column + 1)).drop
            (t.column + 1 + text.length) = t.row.drop (t.column + (c :: text).length) := by
        rw [List.drop_append, htake, List.drop_of_length_le (by omega),
          show t.column + 1 + text.length - t.column = text.length + 1 by omega,
          List.drop_succ_cons, List.drop_drop, List.nil_append, List.length_cons]
        congr 1
        omega
      simp only [hbefore, hbehind, List.append_assoc, List.singleton_append, List.length_cons]
      rw [Nat.add_assoc, Nat.add_comm 1]
    · show t.column + 1 ≤ (t.row.take t.column ++ c :: t.row.drop (t.column + 1)).length
      rw [List.length_append, htake, List.length_cons]
      omega

/-- From the start of a row, a text takes the place of what was there. -/
theorem print_over {text : Text} (hreturn : '\r' ∉ text) (hnewline : '\n' ∉ text)
    (above : List Text) (row : Text) :
    ({ above := above, row := row } : Terminal).print text
      = { above := above, row := text ++ row.drop text.length, column := text.length } := by
  rw [print_cells hreturn hnewline _ (Nat.zero_le _)]
  simp

/-- On an empty row, lines are shown as they are. -/
theorem print_lines {lines : List Text} (hreturn : ∀ line ∈ lines, '\r' ∉ line)
    (hnewline : ∀ line ∈ lines, '\n' ∉ line) (above : List Text) :
    ({ above := above } : Terminal).print (lines.flatMap (· ++ ['\n']))
      = { above := above ++ lines } := by
  induction lines generalizing above with
  | nil => simp [print]
  | cons line lines ih =>
    obtain ⟨hr, hreturn⟩ := List.forall_mem_cons.mp hreturn
    obtain ⟨hn, hnewline⟩ := List.forall_mem_cons.mp hnewline
    rw [List.flatMap_cons, print_append, print_append, print_over hr hn, print_newline,
      List.drop_nil, List.append_nil, ih hreturn hnewline, List.append_assoc]
    rfl

/-- **On an empty row, a terminal shows the pieces of a text.** -/
theorem print_fresh {text : Text} (hreturn : '\r' ∉ text) (above : List Text) :
    ({ above := above } : Terminal).print text
      = { above := above ++ terminated text, row := unterminated text
          column := (unterminated text).length } := by
  have hpieces : ∀ p ∈ terminated text ++ [unterminated text], '\r' ∉ p := by
    intro p hp hmem
    rw [← pieces_eq] at hp
    exact hreturn (mem_of_mem_pieces hmem hp)
  obtain ⟨hlines, hlast⟩ := List.forall_mem_append.mp hpieces
  have hlines := print_lines (List.forall_mem_append.mp hpieces).1
    (fun line => newline_not_mem_terminated) above
  calc ({ above := above } : Terminal).print text
      = (({ above := above } : Terminal).print ((terminated text).flatMap (· ++ ['\n']))).print
          (unterminated text) := by rw [← print_append, ← eq_terminated_append]
    _ = _ := by
      rw [hlines, print_over (hpieces _ (List.mem_append_right _ (List.mem_singleton.mpr rfl)))
        (newline_not_mem_unterminated text), List.drop_nil, List.append_nil]

/-- With a newline behind it, the pieces of a text are above the cursor. -/
theorem print_durable {text : Text} (hreturn : '\r' ∉ text) (above : List Text) :
    ({ above := above } : Terminal).print (text ++ ['\n']) = { above := above ++ pieces text } := by
  rw [print_append, print_fresh hreturn, print_newline, pieces_eq, List.append_assoc]

/-- The rows of a text that does not overwrite itself are its pieces. -/
theorem rows_print {text : Text} (hreturn : '\r' ∉ text) :
    (({} : Terminal).print text).rows = pieces text := by
  rw [print_fresh hreturn, pieces_eq]
  rfl

end Terminal

/-! ## §3. Progress text. -/

/-- What puts a message over `n` columns of progress text: the cursor goes back,
and behind the message spaces cover the rest. -/
def Text.overwriting (n : Nat) (message : Text) : Text :=
  (if n > 0 then ['\r'] else []) ++ (message ++ List.replicate (n - message.length) ' ')

/-- Over nothing, a message is written as it is. -/
theorem Text.overwriting_nothing (message : Text) : overwriting 0 message = message := by
  simp [overwriting]

/-- Row by row, the line stands at the start of what is shown, up to the spaces at
its end. -/
inductive Beneath : List Text → List Text → Prop
  | nil : Beneath [] []
  | cons {line row : Text} {lines rows : List Text} (first : line.trimmed <+: row)
      (others : Beneath lines rows) : Beneath (line :: lines) (row :: rows)

namespace Beneath

variable {lines rows : List Text}

theorem refl (lines : List Text) : Beneath lines lines := by
  induction lines with
  | nil => exact .nil
  | cons line lines ih => exact .cons (Text.trimmed_isPrefix line) ih

theorem append {more moreRows : List Text} (h : Beneath lines rows) (h' : Beneath more moreRows) :
    Beneath (lines ++ more) (rows ++ moreRows) := by
  induction h with
  | nil => exact h'
  | cons first others ih => exact .cons first ih

theorem length_eq (h : Beneath lines rows) : rows.length = lines.length := by
  induction h with
  | nil => rfl
  | cons first others ih => exact congrArg (· + 1) ih

end Beneath

namespace Terminal

open Text

/-- The cursor's row shows `n` columns of progress text and only spaces behind it.
The progress text does not end in a space; without any, the row is empty. -/
structure Holds (t : Terminal) (n : Nat) : Prop where
  shown : ∃ beat blanks, t.row = beat ++ List.replicate blanks ' ' ∧ beat.length = n
    ∧ beat.getLast? ≠ some ' '
  empty : n = 0 → t.row = [] ∧ t.column = 0

theorem Holds.fresh (above : List Text) : ({ above := above } : Terminal).Holds 0 where
  shown := ⟨[], 0, rfl, rfl, by simp⟩
  empty _ := ⟨rfl, rfl⟩

namespace Holds

variable {t : Terminal} {n : Nat} {message : Text}

/-- Behind the progress text there is nothing but spaces. -/
theorem drop_row (h : t.Holds n) {k : Nat} (hk : n ≤ k) :
    ∃ blanks, t.row.drop k = List.replicate blanks ' ' := by
  obtain ⟨beat, blanks, hrow, rfl, -⟩ := h.shown
  exact ⟨_, hrow ▸ drop_blanks blanks hk⟩

/-- A message that is put over the progress text starts at the start of the row. -/
theorem print_overwriting (h : t.Holds n) (message : Text) :
    t.print (overwriting n message)
      = ({ above := t.above, row := t.row } : Terminal).print
        (message ++ List.replicate (n - message.length) ' ') := by
  unfold overwriting
  rw [print_append]
  by_cases hn : n > 0
  · rw [if_pos hn, print_return]
  · obtain ⟨hrow, hcolumn⟩ := h.empty (by omega)
    obtain ⟨above, row, column⟩ := t
    obtain rfl : column = 0 := hcolumn
    rw [if_neg hn]
    rfl

/-- A message on one line takes the place of the progress text. -/
theorem print_flat (h : t.Holds n) (hreturn : '\r' ∉ message) (hnewline : '\n' ∉ message) :
    ∃ blanks column, t.print (overwriting n message)
      = { above := t.above, row := message ++ List.replicate blanks ' ', column := column } := by
  have hr : '\r' ∉ message ++ List.replicate (n - message.length) ' ' := by
    simp [hreturn]
  have hn : '\n' ∉ message ++ List.replicate (n - message.length) ' ' := by
    simp [hnewline]
  obtain ⟨blanks, hblanks⟩ := h.drop_row
    (k := (message ++ List.replicate (n - message.length) ' ').length)
    (by rw [List.length_append, List.length_replicate]; omega)
  rw [h.print_overwriting, print_over hr hn, hblanks, List.append_assoc, List.replicate_append_replicate]
  exact ⟨_, _, rfl⟩

/-- **Progress text over progress text.** -/
theorem print_progress (h : t.Holds n) (hreturn : '\r' ∉ message) (hnewline : '\n' ∉ message)
    (hne : message ≠ []) (hend : message.getLast? ≠ some ' ') :
    (t.print (overwriting n message)).above = t.above
      ∧ (t.print (overwriting n message)).Holds message.length := by
  obtain ⟨blanks, column, hprint⟩ := h.print_flat hreturn hnewline
  rw [hprint]
  refine ⟨rfl, ⟨message, blanks, rfl, rfl, hend⟩, fun hzero => ?_⟩
  exact absurd (List.length_eq_zero_iff.mp hzero) hne

/-- What the first line of a message leaves of the progress text is visible exactly
if the line is shorter. -/
theorem trimmed_over_iff (h : t.Holds n) (line : Text) :
    trimmed (line ++ t.row.drop line.length) = trimmed line ↔ n ≤ line.length := by
  constructor
  · intro heq
    obtain ⟨beat, blanks, hrow, hlength, hend⟩ := h.shown
    refine Nat.le_of_not_lt fun hlt => ?_
    -- The last character of the progress text is none of the spaces that are cut off.
    have hrest : (beat.drop line.length).getLast? = beat.getLast? := by
      rw [List.getLast?_drop, if_neg (by omega)]
    have hvisible : trimmed (line ++ t.row.drop line.length) = line ++ beat.drop line.length := by
      rw [hrow, List.drop_append_of_le_length (by omega), ← List.append_assoc, trimmed_spaces]
      refine trimmed_eq_self ?_
      rw [List.getLast?_append, hrest]
      cases hlast : beat.getLast? with
      | none =>
        rw [List.getLast?_eq_none_iff.mp hlast] at hlength
        simp at hlength
        omega
      | some c =>
        rw [hlast] at hend
        exact hend
    have hshort := (trimmed_isPrefix line).length_le
    rw [← heq, hvisible, List.length_append, List.length_drop] at hshort
    omega
  · intro hle
    obtain ⟨blanks, hblanks⟩ := h.drop_row hle
    rw [hblanks, trimmed_spaces]

/-- A message that goes on behind its first line: the spaces that should cover the
progress text come behind its last line. -/
theorem print_broken (h : t.Holds n) {line more : Text} (hline : '\n' ∉ line)
    (hreturn : '\r' ∉ line ++ '\n' :: more) :
    ∃ rows, t.print (overwriting n (line ++ '\n' :: more) ++ ['\n'])
        = { above := t.above ++ (line ++ t.row.drop line.length) :: rows }
      ∧ Beneath (pieces more) rows ∧ rows.map trimmed = (pieces more).map trimmed := by
  have hr : '\r' ∉ line ∧ '\r' ∉ more := by simpa using hreturn
  generalize hspaces : List.replicate (n - (line ++ '\n' :: more).length) ' ' = spaces
  have hs : '\r' ∉ spaces ∧ '\n' ∉ spaces := by simp [← hspaces]
  have hlast : pieces (more ++ spaces) = terminated more ++ [unterminated more ++ spaces] :=
    pieces_append_flat more hs.2
  refine ⟨pieces (more ++ spaces), ?_, ?_, ?_⟩
  · have hsplit : line ++ '\n' :: more ++ spaces ++ ['\n']
        = line ++ (['\n'] ++ (more ++ spaces ++ ['\n'])) := by simp
    rw [print_append, h.print_overwriting, hspaces, ← print_append, hsplit, print_append,
      print_over hr.1 hline, print_append]
    show ({ above := t.above ++ [line ++ t.row.drop line.length] } : Terminal).print _ = _
    rw [print_durable (by simp [hr.2, hs.1]), List.append_assoc]
    rfl
  · rw [hlast, pieces_eq more]
    exact (Beneath.refl (terminated more)).append
      (.cons ((trimmed_isPrefix _).trans (List.prefix_append _ _)) .nil)
  · rw [hlast, pieces_eq more, List.map_append, List.map_append, ← hspaces]
    simp only [List.map_cons, trimmed_spaces]

/-- **A durable message over progress text.**  Its pieces come below each other,
each at the start of its row; and no more than them is visible exactly if the
message goes on behind its first line only where this covers the progress text. -/
theorem print_line (h : t.Holds n) (hreturn : '\r' ∉ message) :
    ∃ rows, t.print (overwriting n message ++ ['\n']) = { above := t.above ++ rows }
      ∧ Beneath (pieces message) rows
      ∧ (rows.map trimmed = (pieces message).map trimmed ↔ message.Covers n) := by
  by_cases hnewline : '\n' ∈ message
  · obtain ⟨line, more, rfl, hline⟩ := List.eq_append_cons_of_mem hnewline
    obtain ⟨rows, hprint, hbeneath, hrows⟩ := h.print_broken hline hreturn
    have hcovers : Covers (line ++ '\n' :: more) n ↔ n ≤ line.length := by
      unfold Covers
      rw [firstLine_append hline]
      exact ⟨fun hall => hall hnewline, fun hle _ => hle⟩
    refine ⟨_, hprint, ?_, ?_⟩
    · rw [pieces_append_newline, pieces_of_flat hline]
      exact .cons ((trimmed_isPrefix line).trans (List.prefix_append _ _)) hbeneath
    · rw [hcovers, ← h.trimmed_over_iff line, pieces_append_newline, pieces_of_flat hline,
        List.singleton_append, List.map_cons, List.map_cons, hrows]
      exact ⟨fun heq => (List.cons.inj heq).1, fun heq => by rw [heq]⟩
  · obtain ⟨blanks, column, hprint⟩ := h.print_flat hreturn hnewline
    refine ⟨[message ++ List.replicate blanks ' '], ?_, ?_, ?_⟩
    · rw [print_append, hprint, print_newline]
    · rw [pieces_of_flat hnewline]
      exact .cons ((trimmed_isPrefix message).trans (List.prefix_append _ _)) .nil
    · rw [pieces_of_flat hnewline]
      simp [trimmed_spaces, Covers, hnewline]

end Holds

end Terminal

end Rehearsal
