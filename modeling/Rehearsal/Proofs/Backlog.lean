/-
  Rehearsal.Proofs.Backlog
  ──────────────────────────────────────
  **What is left behind of a response.**

  In every exchange a child prints a block of bytes and the line of the sentinel.
  A block that is a text is read to its end.  One that is not is read up to its
  first ill-formed line only: the rest of it waits in front of all that is
  printed later.

    • `readResponse_frame` — what is read of a block, and what is left of it,
    • `backlog_eq_nil_iff` — nothing waits exactly behind texts.
-/
import Rehearsal.Proofs.Framing

namespace Rehearsal.Wire

open Text

/-! ## §1. Blocks of bytes. -/

/-- A line of a block: it does not end with the sentinel. -/
structure IsLine (sentinel : Text) (line : Bytes) : Prop where
  newline_not_mem : newline ∉ line
  free : ∀ t, ofUtf8? line = some t → ¬ sentinel <:+ dropLineEnd t

/-- The bytes of a text are a line if the text is one. -/
theorem IsLine.of_text {sentinel t : Text} (h : '\n' ∉ t) (hfree : ¬ sentinel <:+ dropLineEnd t) :
    IsLine sentinel (utf8 t) where
  newline_not_mem := newline_not_mem_utf8 h
  free := by
    intro t' ht
    rw [ofUtf8?_utf8] at ht
    rw [← Option.some.inj ht]
    exact hfree

/-- What a child prints in an exchange in front of the sentinel: whole lines. -/
structure Block (sentinel : Text) where
  lines : List Bytes
  isLine : ∀ line ∈ lines, IsLine sentinel line

namespace Block

variable {sentinel : Text}

/-- The bytes of a block. -/
def bytes (b : Block sentinel) : Bytes := b.lines.flatMap (· ++ [newline])

/-- Bytes that are empty or end in a newline consist of whole lines. -/
theorem exists_lines {bytes : Bytes} (h : bytes = [] ∨ bytes.getLast? = some newline) :
    ∃ lines : List Bytes, (∀ line ∈ lines, newline ∉ line)
      ∧ bytes = lines.flatMap (· ++ [newline]) := by
  induction bytes with
  | nil => exact ⟨[], by simp, rfl⟩
  | cons b bytes ih =>
    cases bytes with
    | nil =>
      rcases h with h | h
      · exact absurd h (by simp)
      · refine ⟨[[]], by simp, ?_⟩
        rw [List.getLast?_singleton] at h
        rw [Option.some.inj h]
        rfl
    | cons c bytes =>
      obtain ⟨lines, hlines, heq⟩ := ih (.inr (by simpa using h))
      by_cases hb : b = newline
      · refine ⟨[] :: lines, by simpa using hlines, ?_⟩
        rw [heq, hb]
        rfl
      · cases lines with
        | nil => exact absurd heq (by simp)
        | cons line lines =>
          obtain ⟨hline, hothers⟩ := List.forall_mem_cons.mp hlines
          refine ⟨(b :: line) :: lines, List.forall_mem_cons.mpr ⟨?_, hothers⟩, ?_⟩
          · intro hmem
            rcases List.mem_cons.mp hmem with h | h
            · exact hb h.symm
            · exact hline h
          · rw [heq]
            rfl

/-- **Every admissible output is a block:** bytes that are empty or end in a
newline, with no line that ends with the sentinel. -/
theorem exists_of_bytes {bytes : Bytes} (h : bytes = [] ∨ bytes.getLast? = some newline)
    (hfree : ∀ before line after, bytes = before ++ (line ++ newline :: after) →
      before = [] ∨ before.getLast? = some newline → newline ∉ line →
      ∀ t, ofUtf8? line = some t → ¬ sentinel <:+ dropLineEnd t) :
    ∃ b : Block sentinel, b.bytes = bytes := by
  obtain ⟨lines, hlines, rfl⟩ := exists_lines h
  refine ⟨⟨lines, fun line hline => ⟨hlines line hline, ?_⟩⟩, rfl⟩
  obtain ⟨before, after, rfl⟩ := List.append_of_mem hline
  refine hfree (before.flatMap (· ++ [newline])) line (after.flatMap (· ++ [newline])) ?_ ?_
    (hlines line hline)
  · rw [List.flatMap_append, List.flatMap_cons, List.append_assoc]
    rfl
  · rcases List.eq_nil_or_concat before with rfl | ⟨start, last, rfl⟩
    · exact .inl rfl
    · refine .inr ?_
      rw [List.concat_eq_append, List.flatMap_append, List.flatMap_singleton, ← List.append_assoc,
        List.getLast?_concat]

/-- What the child prints altogether. -/
def frame (b : Block sentinel) : Bytes := b.bytes ++ (utf8 sentinel ++ [newline])

/-- The block is well formed. -/
def IsText (b : Block sentinel) : Prop := (ofUtf8? b.bytes).isSome = true

/-- The lines of a response; there are none if a line is no text. -/
def textLines : List Bytes → Option (List Text)
  | [] => some []
  | line :: rest => (ofUtf8? line).bind fun t => (textLines rest).map (dropLineEnd t :: ·)

/-- What reading the block comes to. -/
def response (b : Block sentinel) : Except SessionFault (List Text) :=
  match textLines b.lines with
  | some lines => .ok lines
  | none => .error .io

/-- The lines of the response, joined. -/
def output (b : Block sentinel) : Except SessionFault Text := b.response.map unlines

/-- What is left of a block: the lines behind the first one that is no text. -/
def leftOf : (lines : List Bytes) → (∀ line ∈ lines, IsLine sentinel line) →
    Option (Block sentinel)
  | [], _ => none
  | line :: rest, h =>
      if (ofUtf8? line).isSome then leftOf rest fun l hl => h l (List.mem_cons_of_mem line hl)
      else some ⟨rest, fun l hl => h l (List.mem_cons_of_mem line hl)⟩

/-- What is left of a block that is not read to its end. -/
def left? (b : Block sentinel) : Option (Block sentinel) := leftOf b.lines b.isLine

/-- A block is well formed if each of its lines is. -/
theorem isText_iff (b : Block sentinel) : b.IsText ↔ ∀ line ∈ b.lines, (ofUtf8? line).isSome := by
  unfold IsText bytes
  induction b.lines with
  | nil => simp [ofUtf8?_nil]
  | cons line lines ih =>
    have hbytes : (line :: lines).flatMap (· ++ [newline])
        = line ++ 10 :: lines.flatMap (· ++ [newline]) := by
      rw [List.flatMap_cons, List.append_assoc]
      rfl
    rw [hbytes, ofUtf8?_line, List.forall_mem_cons, ← ih]
    cases ofUtf8? line <;> simp

theorem textLines_eq_none_iff {lines : List Bytes} :
    textLines lines = none ↔ ¬ ∀ line ∈ lines, (ofUtf8? line).isSome := by
  induction lines with
  | nil => simp [textLines]
  | cons line lines ih =>
    rw [List.forall_mem_cons, textLines]
    cases hline : ofUtf8? line with
    | none => simp
    | some t => simpa using ih

theorem leftOf_eq_none_iff {lines : List Bytes} (h : ∀ line ∈ lines, IsLine sentinel line) :
    leftOf lines h = none ↔ ∀ line ∈ lines, (ofUtf8? line).isSome := by
  induction lines with
  | nil => simp [leftOf]
  | cons line lines ih =>
    rw [List.forall_mem_cons, leftOf]
    cases hline : ofUtf8? line with
    | none => simp
    | some t => simpa using ih _

/-- **A block is read to its end** exactly if it is well formed. -/
theorem left?_eq_none_iff (b : Block sentinel) : b.left? = none ↔ b.IsText := by
  rw [isText_iff]
  exact leftOf_eq_none_iff b.isLine

/-- The output of a block is a fault exactly if the block is ill formed. -/
theorem output_eq_io_iff (b : Block sentinel) : b.output = .error .io ↔ ¬ b.IsText := by
  rw [isText_iff, ← textLines_eq_none_iff]
  unfold output response
  cases textLines b.lines with
  | none => exact ⟨fun _ => rfl, fun _ => rfl⟩
  | some lines => simp [Except.map]

/-- No other fault is possible. -/
theorem output_cases (b : Block sentinel) : b.output = .error .io ∨ ∃ t, b.output = .ok t := by
  unfold output response
  cases textLines b.lines with
  | none => exact .inl rfl
  | some lines => exact .inr ⟨_, rfl⟩

/-! ## §2. Some blocks. -/

/-- The block with the lines of a text. -/
def ofTexts (texts : List Text)
    (h : ∀ t ∈ texts, '\n' ∉ t ∧ ¬ sentinel <:+ dropLineEnd t) : Block sentinel where
  lines := texts.map utf8
  isLine := by
    intro line hline
    obtain ⟨t, ht, rfl⟩ := List.mem_map.mp hline
    exact .of_text (h t ht).1 (h t ht).2

theorem isText_ofTexts (texts : List Text)
    (h : ∀ t ∈ texts, '\n' ∉ t ∧ ¬ sentinel <:+ dropLineEnd t) : (ofTexts texts h).IsText := by
  rw [isText_iff]
  intro line hline
  obtain ⟨t, ht, rfl⟩ := List.mem_map.mp hline
  rw [ofUtf8?_utf8]
  rfl

theorem textLines_utf8 (texts : List Text) :
    textLines (texts.map utf8) = some (texts.map dropLineEnd) := by
  induction texts with
  | nil => rfl
  | cons t texts ih =>
    rw [List.map_cons, textLines, ofUtf8?_utf8, ih]
    rfl

/-- The output of a text is the text, without the line ends. -/
theorem output_ofTexts (texts : List Text)
    (h : ∀ t ∈ texts, '\n' ∉ t ∧ ¬ sentinel <:+ dropLineEnd t) :
    (ofTexts texts h).output = .ok (unlines (texts.map dropLineEnd)) := by
  have hlines : textLines (ofTexts texts h).lines = _ := textLines_utf8 texts
  rw [output, response, hlines]
  rfl

/-- Nothing at all. -/
def empty (sentinel : Text) : Block sentinel := ofTexts [] (by simp)

/-- Two lines with nothing on them. -/
def blank (hs : IsSentinel sentinel) : Block sentinel :=
  ofTexts [[], []] (by simpa [dropLineEnd, dropEndWhile] using hs.ne_nil)

theorem ofUtf8?_ff : ofUtf8? [0xFF] = none := by
  rw [ofUtf8?, decodeFrom, decodeFrom.start]
  rfl

/-- A byte that no text contains. -/
def illFormed (sentinel : Text) : Block sentinel where
  lines := [[0xFF]]
  isLine := by
    have hline : IsLine sentinel [0xFF] := by
      refine ⟨by decide, ?_⟩
      intro t ht
      rw [ofUtf8?_ff] at ht
      exact absurd ht (by simp)
    simpa using hline

theorem output_empty : (empty sentinel).output = .ok [] := output_ofTexts [] _

theorem output_blank (hs : IsSentinel sentinel) : (blank hs).output = .ok ['\n'] :=
  output_ofTexts [[], []] _

theorem left?_illFormed : (illFormed sentinel).left? = some (empty sentinel) := by
  show (if (ofUtf8? [0xFF]).isSome then _ else some _) = _
  rw [ofUtf8?_ff]
  rfl

theorem output_illFormed : (illFormed sentinel).output = .error .io := by
  have hlines : textLines (illFormed sentinel).lines = none := by
    show textLines [[0xFF]] = _
    rw [textLines, ofUtf8?_ff]
    rfl
  rw [output, response, hlines]
  rfl

end Block

/-! ## §3. Reading the oldest block. -/

section Reading

variable {sentinel : Text}

/-- The bytes of the blocks that wait to be read, each with its sentinel. -/
def frames (blocks : List (Block sentinel)) : Bytes := blocks.flatMap Block.frame

theorem dropLineEnd_newline (t : Text) : dropLineEnd (t ++ ['\n']) = dropLineEnd t := by
  unfold dropLineEnd
  rw [dropEndWhile_snoc, if_pos (by decide)]

/-- What reading makes of the lines of a block, and what it leaves. -/
theorem readResponse_blockLines (hs : IsSentinel sentinel) {lines : List Bytes}
    (h : ∀ line ∈ lines, IsLine sentinel line) (rest : Bytes) :
    readResponse sentinel
        (lines.flatMap (· ++ [newline]) ++ (utf8 sentinel ++ newline :: rest))
      = (match Block.textLines lines with
          | some lines => .ok lines
          | none => .error .io,
        frames (Block.leftOf lines h).toList ++ rest) := by
  induction lines with
  | nil =>
    exact readResponse_sentinel hs List.not_mem_nil rest
  | cons line lines ih =>
    have hline := h line (List.mem_cons_self ..)
    have hbytes : (line :: lines).flatMap (· ++ [newline]) ++ (utf8 sentinel ++ newline :: rest)
        = line ++ newline ::
          (lines.flatMap (· ++ [newline]) ++ (utf8 sentinel ++ newline :: rest)) := by
      simp
    rw [hbytes]
    unfold Block.textLines Block.leftOf
    cases ht : ofUtf8? line with
    | none =>
      rw [readResponse_ill _ hline.newline_not_mem ht]
      simp [frames, Block.frame, Block.bytes]
    | some t =>
      have hfree := hline.free t ht
      rw [← dropLineEnd_newline] at hfree
      rw [readResponse_more _ hline.newline_not_mem ht hfree, ih, dropLineEnd_newline]
      cases Block.textLines lines <;> rfl

/-- **One block is read:** its response, and what is left of it in front of the rest. -/
theorem readResponse_frame (hs : IsSentinel sentinel) (b : Block sentinel) (rest : Bytes) :
    readResponse sentinel (b.frame ++ rest) = (b.response, frames b.left?.toList ++ rest) := by
  have hframe : b.frame ++ rest
      = b.lines.flatMap (· ++ [newline]) ++ (utf8 sentinel ++ newline :: rest) := by
    simp [Block.frame, Block.bytes]
  rw [hframe, readResponse_blockLines hs b.isLine rest]
  rfl

/-- The block that is read next if `b` is printed behind the waiting ones. -/
def front : List (Block sentinel) → Block sentinel → Block sentinel
  | [], b => b
  | c :: _, _ => c

/-- The blocks that wait once the next one was read. -/
def advance : List (Block sentinel) → Block sentinel → List (Block sentinel)
  | [], b => b.left?.toList
  | c :: waiting, b => c.left?.toList ++ (waiting ++ [b])

theorem readResponse_frames (hs : IsSentinel sentinel) (waiting : List (Block sentinel))
    (b : Block sentinel) :
    readResponse sentinel (frames waiting ++ b.frame)
      = ((front waiting b).response, frames (advance waiting b)) := by
  cases waiting with
  | nil =>
    have h := readResponse_frame hs b []
    rw [List.append_nil, List.append_nil] at h
    exact h
  | cons c waiting =>
    have hbytes : frames (c :: waiting) ++ b.frame = c.frame ++ frames (waiting ++ [b]) := by
      simp [frames]
    have hrest : frames (advance (c :: waiting) b)
        = frames c.left?.toList ++ frames (waiting ++ [b]) := List.flatMap_append
    rw [hbytes, readResponse_frame hs, hrest]
    rfl

/-- The blocks that wait after some blocks were printed, one in each exchange. -/
def backlog (waiting blocks : List (Block sentinel)) : List (Block sentinel) :=
  blocks.foldl advance waiting

theorem advance_eq_nil_iff (waiting : List (Block sentinel)) (b : Block sentinel) :
    advance waiting b = [] ↔ waiting = [] ∧ b.IsText := by
  rw [← b.left?_eq_none_iff]
  cases waiting with
  | nil => simp [advance]
  | cons c waiting => simp [advance]

/-- **Nothing waits exactly behind texts,** and what waits once waits for good. -/
theorem backlog_eq_nil_iff (waiting blocks : List (Block sentinel)) :
    backlog waiting blocks = [] ↔ waiting = [] ∧ ∀ b ∈ blocks, b.IsText := by
  induction blocks generalizing waiting with
  | nil => simp [backlog]
  | cons b blocks ih =>
    show backlog (advance waiting b) blocks = [] ↔ _
    rw [ih, advance_eq_nil_iff, List.forall_mem_cons, and_assoc]

end Reading

end Rehearsal.Wire
