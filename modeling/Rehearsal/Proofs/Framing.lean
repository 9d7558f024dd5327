/-
  Rehearsal.Proofs.Framing
  ──────────────────────────────────────
  **Where a response ends.**

  What a child prints for one request is a block: lines that end in a newline,
  and an unterminated rest that the sentinel is printed behind.  As long as no
  line of a block ends with the sentinel, reading gives back the block and stops
  right behind its sentinel.

    • `readResponse_line` — what reading does with one line,
    • `readResponse_block` — what it does with one block,
    • `responses_exact` — what it does with block after block.
-/
import Rehearsal.Proofs.Cutting
import Rehearsal.Proofs.Encoding
import Rehearsal.Wire

namespace Rehearsal

/-! ## §1. Text at the end of a line. -/

namespace Text

/-- Drops all carriage returns at the end. -/
def dropReturns (line : Text) : Text := dropEndWhile (· = '\r') line

/-- Nothing is dropped from a text with another end. -/
theorem dropReturns_eq_self {t : Text} (h : t.getLast? ≠ some '\r') : dropReturns t = t := by
  refine dropEndWhile_eq_self fun c hc => decide_eq_false ?_
  rintro rfl
  exact h hc

theorem before?_append (sentinel start : Text) : before? sentinel (start ++ sentinel) = some start := by
  have hsuffix : sentinel.isSuffixOf (start ++ sentinel) = true :=
    List.isSuffixOf_iff_suffix.mpr ⟨start, rfl⟩
  unfold before?
  rw [if_pos hsuffix, List.length_append, Nat.add_sub_cancel, List.take_left]

theorem before?_eq_none {sentinel line : Text} (h : ¬ sentinel <:+ line) :
    before? sentinel line = none := by
  unfold before?
  rw [if_neg fun hsuffix => h (List.isSuffixOf_iff_suffix.mp hsuffix)]

theorem utf8_append (a b : Text) : utf8 (a ++ b) = utf8 a ++ utf8 b := List.flatMap_append

end Text

namespace Wire

open Text

variable {sentinel : Text}

theorem newline_not_mem_utf8 {t : Text} (h : '\n' ∉ t) : newline ∉ utf8 t :=
  fun hmem => h (newline_mem_utf8 hmem)

/-- A line that ends in a newline loses it, and the carriage returns before it. -/
theorem dropLineEnd_line {t : Text} (h : '\n' ∉ t) : dropLineEnd (t ++ ['\n']) = dropReturns t := by
  unfold dropLineEnd dropReturns
  rw [dropEndWhile_snoc, if_pos (by decide)]
  refine dropEndWhile_congr fun c hc => ?_
  have hne : c ≠ '\n' := fun heq => h (heq ▸ hc)
  simp [hne]

/-! ## §2. Reading one line. -/

theorem takeLine?_line {line : Bytes} (rest : Bytes) (h : newline ∉ line) :
    takeLine? (line ++ newline :: rest) = some (line ++ [newline], rest) := by
  induction line with
  | nil => rfl
  | cons b line ih =>
    have hb : b ≠ newline := fun heq => h (heq ▸ List.mem_cons_self ..)
    have hline : newline ∉ line := fun hmem => h (List.mem_cons_of_mem b hmem)
    rw [List.cons_append, takeLine?, if_neg hb, ih hline]
    rfl

/-- What reading does with a line: it ends on a line that is no text and on one
that ends with the sentinel, and goes on behind any other. -/
theorem readResponse_line {line : Bytes} (rest : Bytes) (h : newline ∉ line) :
    readResponse sentinel (line ++ newline :: rest) =
      match ofUtf8? line with
      | none => (.error .io, rest)
      | some t =>
          if dropLineEnd (t ++ ['\n']) = sentinel then (.ok [], rest)
          else match before? sentinel (dropLineEnd (t ++ ['\n'])) with
            | some start => (.ok [start], rest)
            | none => ((readResponse sentinel rest).1.map (dropLineEnd (t ++ ['\n']) :: ·),
                (readResponse sentinel rest).2) := by
  have htext : ofUtf8? (line ++ [newline]) = (ofUtf8? line).map (· ++ ['\n']) := by
    refine (ofUtf8?_line line []).trans ?_
    rw [ofUtf8?_nil]
    cases ofUtf8? line <;> rfl
  rw [readResponse, takeLine?_line rest h]
  simp only [htext]
  cases ofUtf8? line <;> rfl

/-- A line that is no text ends reading right behind it. -/
theorem readResponse_ill {line : Bytes} (rest : Bytes) (h : newline ∉ line)
    (hill : ofUtf8? line = none) :
    readResponse sentinel (line ++ newline :: rest) = (.error .io, rest) := by
  rw [readResponse_line rest h, hill]

/-- A line that does not end with the sentinel is given as it is, without its
line end. -/
theorem readResponse_more {line : Bytes} {t : Text} (rest : Bytes) (h : newline ∉ line)
    (ht : ofUtf8? line = some t) (hfree : ¬ sentinel <:+ dropLineEnd (t ++ ['\n'])) :
    readResponse sentinel (line ++ newline :: rest)
      = ((readResponse sentinel rest).1.map (dropLineEnd (t ++ ['\n']) :: ·),
          (readResponse sentinel rest).2) := by
  have hne : dropLineEnd (t ++ ['\n']) ≠ sentinel := fun heq => hfree (heq ▸ List.suffix_rfl)
  rw [readResponse_line rest h, ht]
  simp only [if_neg hne, before?_eq_none hfree]

/-! ## §3. Reading one block. -/

/-- What a sentinel must be like: something on one line that does not end in a
carriage return. -/
structure IsSentinel (sentinel : Text) : Prop where
  ne_nil : sentinel ≠ []
  newline_not_mem : '\n' ∉ sentinel
  getLast_ne : sentinel.getLast? ≠ some '\r'

/-- No line of the block, without its line end, ends with the sentinel. -/
def Framed (sentinel block : Text) : Prop :=
  ∀ line ∈ terminated block, ¬ sentinel <:+ dropReturns line

instance (sentinel block : Text) : Decidable (Framed sentinel block) :=
  inferInstanceAs (Decidable (∀ line ∈ terminated block, ¬ sentinel <:+ dropReturns line))

/-- The lines that a block consists of: those that end in a newline without
their line ends, then the rest as it is unless it is empty. -/
def blockLines (block : Text) : List Text :=
  (terminated block).map dropReturns
    ++ if unterminated block = [] then [] else [unterminated block]

/-- What a child prints for a block. -/
def frame (sentinel block : Text) : Bytes := utf8 (block ++ sentinel ++ ['\n'])

/-- The line of the sentinel, with an unterminated rest in front of it. -/
theorem readResponse_sentinel (hs : IsSentinel sentinel) {start : Text} (h : '\n' ∉ start)
    (rest : Bytes) :
    readResponse sentinel (utf8 (start ++ sentinel) ++ newline :: rest)
      = (.ok (if start = [] then [] else [start]), rest) := by
  have hline : '\n' ∉ start ++ sentinel := by
    intro hmem
    rcases List.mem_append.mp hmem with hmem | hmem
    · exact h hmem
    · exact hs.newline_not_mem hmem
  have hdrop : dropLineEnd (start ++ sentinel ++ ['\n']) = start ++ sentinel := by
    rw [dropLineEnd_line hline]
    refine dropReturns_eq_self ?_
    rw [List.getLast?_append]
    cases hlast : sentinel.getLast? with
    | none => exact absurd (List.getLast?_eq_none_iff.mp hlast) hs.ne_nil
    | some c =>
      have hne := hs.getLast_ne
      rw [hlast] at hne
      exact hne
  rw [readResponse_line rest (newline_not_mem_utf8 hline), ofUtf8?_utf8]
  simp only [hdrop, before?_append]
  by_cases hstart : start = []
  · rw [if_pos hstart, if_pos (by rw [hstart]; rfl)]
  · have hne : start ++ sentinel ≠ sentinel := fun heq => hstart (List.append_left_eq_self.mp heq)
    rw [if_neg hstart, if_neg hne]

/-- Lines in front of the line of the sentinel. -/
theorem readResponse_lines (hs : IsSentinel sentinel) {lines : List Text} {start : Text}
    (hlines : ∀ line ∈ lines, '\n' ∉ line) (h : '\n' ∉ start)
    (hfree : ∀ line ∈ lines, ¬ sentinel <:+ dropReturns line) (rest : Bytes) :
    readResponse sentinel
        (utf8 (lines.flatMap (· ++ ['\n']) ++ start ++ sentinel ++ ['\n']) ++ rest)
      = (.ok (lines.map dropReturns ++ if start = [] then [] else [start]), rest) := by
  induction lines with
  | nil =>
    have hbytes : utf8 ([].flatMap (· ++ ['\n']) ++ start ++ sentinel ++ ['\n']) ++ rest
        = utf8 (start ++ sentinel) ++ newline :: rest := by
      rw [utf8_append _ ['\n'], List.append_assoc]
      rfl
    rw [hbytes, readResponse_sentinel hs h]
    rfl
  | cons line lines ih =>
    obtain ⟨hline, hlines⟩ := List.forall_mem_cons.mp hlines
    obtain ⟨hfree, hfrees⟩ := List.forall_mem_cons.mp hfree
    have hbytes : utf8 ((line :: lines).flatMap (· ++ ['\n']) ++ start ++ sentinel ++ ['\n']) ++ rest
        = utf8 line ++ newline ::
          (utf8 (lines.flatMap (· ++ ['\n']) ++ start ++ sentinel ++ ['\n']) ++ rest) := by
      simp only [List.flatMap_cons, List.append_assoc, utf8_append]
      rfl
    rw [← dropLineEnd_line hline] at hfree
    rw [hbytes, readResponse_more _ (newline_not_mem_utf8 hline) (ofUtf8?_utf8 line) hfree,
      ih hlines hfrees, dropLineEnd_line hline]
    rfl

/-- **A block is read as its lines**, up to right behind its sentinel. -/
theorem readResponse_block (hs : IsSentinel sentinel) {block : Text}
    (hb : Framed sentinel block) (rest : Bytes) :
    readResponse sentinel (frame sentinel block ++ rest) = (.ok (blockLines block), rest) := by
  have h := readResponse_lines hs (fun _ => newline_not_mem_terminated)
    (newline_not_mem_unterminated block) hb rest
  rw [← eq_terminated_append] at h
  exact h

/-! ## §4. Reading block after block. -/

/-- A number of successive responses, and the unread rest. -/
def responses (sentinel : Text) :
    Nat → Bytes → List (Except SessionFault (List Text)) × Bytes
  | 0, bytes => ([], bytes)
  | n + 1, bytes =>
      let (response, rest) := readResponse sentinel bytes
      let (more, rest) := responses sentinel n rest
      (response :: more, rest)

/-- What a child prints for a list of blocks. -/
def stream (sentinel : Text) (blocks : List Text) : Bytes := blocks.flatMap (frame sentinel)

theorem responses_succ (n : Nat) (bytes : Bytes) :
    responses sentinel (n + 1) bytes
      = ((readResponse sentinel bytes).1
            :: (responses sentinel n (readResponse sentinel bytes).2).1,
          (responses sentinel n (readResponse sentinel bytes).2).2) := rfl

/-- The first responses do not depend on what is read behind them. -/
theorem responses_add (m n : Nat) (bytes : Bytes) :
    responses sentinel (m + n) bytes
      = ((responses sentinel m bytes).1
            ++ (responses sentinel n (responses sentinel m bytes).2).1,
          (responses sentinel n (responses sentinel m bytes).2).2) := by
  induction m generalizing bytes with
  | zero =>
    rw [Nat.zero_add]
    rfl
  | succ m ih =>
    rw [Nat.succ_add, responses_succ, responses_succ, ih]
    rfl

/-- **As many responses as there are blocks,** each with the lines of its block. -/
theorem responses_stream (hs : IsSentinel sentinel) {blocks : List Text}
    (hb : ∀ block ∈ blocks, Framed sentinel block) (rest : Bytes) :
    responses sentinel blocks.length (stream sentinel blocks ++ rest)
      = (blocks.map fun block => .ok (blockLines block), rest) := by
  induction blocks with
  | nil => rfl
  | cons block blocks ih =>
    obtain ⟨hfirst, hothers⟩ := List.forall_mem_cons.mp hb
    have hstream : stream sentinel (block :: blocks) ++ rest
        = frame sentinel block ++ (stream sentinel blocks ++ rest) := by
      unfold stream
      rw [List.flatMap_cons, List.append_assoc]
    rw [hstream, List.length_cons, responses_succ, readResponse_block hs hfirst, ih hothers]
    rfl

theorem readResponse_nil : readResponse sentinel [] = (.error .closed, []) := by
  rw [readResponse]
  rfl

/-- An exchange comes to what is read of the output of the child. -/
theorem exchange_read {σ : Type} {child : Child σ} {s : InterpreterSettings} {state : State σ}
    {text : Text} {response : Except SessionFault (List Text)} {rest : Bytes}
    (hlistens : child.listens state.child = true)
    (hread : readResponse s.sentinel
        (state.unread ++ (child.feed state.child (utf8 (text ++ sentinelText s))).1)
      = (response, rest)) :
    exchange child s text state = (response.map unlines,
      { child := (child.feed state.child (utf8 (text ++ sentinelText s))).2, unread := rest }) := by
  unfold exchange
  rw [if_pos hlistens]
  simp only [hread]

/-- The answer to an expression whose block is the next one to be read. -/
theorem evaluate_block {σ : Type} (child : Child σ) (s : InterpreterSettings)
    (hs : IsSentinel s.sentinel) (errors : Regex.Matcher) (state : State σ) (expression : Text)
    (hlistens : child.listens state.child = true) {block : Text} (hb : Framed s.sentinel block)
    {rest : Bytes}
    (hprinted : state.unread
        ++ (child.feed state.child (utf8 (requestText s expression ++ sentinelText s))).1
      = frame s.sentinel block ++ rest) :
    evaluate child s errors state expression =
      (if errors.isMatch (unlines (blockLines block)) then .error (unlines (blockLines block))
        else .ok (unlines (blockLines block)),
      { child := (child.feed state.child (utf8 (requestText s expression ++ sentinelText s))).2,
        unread := rest }) := by
  have hread := readResponse_block hs hb rest
  rw [← hprinted] at hread
  unfold evaluate
  rw [exchange_read hlistens hread]
  rfl

/-- **Response framing is exact.**  Every response consists of the lines of its
own block and ends at the start of the next block; behind the last one there is
no further response.  An answer is these lines, joined, and it is an error
exactly if the error pattern matches them. -/
theorem responses_exact (s : InterpreterSettings) (hs : IsSentinel s.sentinel)
    (blocks : List Text) (hb : ∀ block ∈ blocks, Framed s.sentinel block) :
    (∀ k ≤ blocks.length, responses s.sentinel k (stream s.sentinel blocks)
        = ((blocks.take k).map fun block => .ok (blockLines block),
            stream s.sentinel (blocks.drop k)))
      ∧ responses s.sentinel (blocks.length + 1) (stream s.sentinel blocks)
        = ((blocks.map fun block => .ok (blockLines block)) ++ [.error .closed], [])
      ∧ ∀ {σ : Type} (child : Child σ) (errors : Regex.Matcher) (state : State σ)
          (expression : Text), child.listens state.child = true →
          ∀ block ∈ blocks, ∀ rest, state.unread
              ++ (child.feed state.child (utf8 (requestText s expression ++ sentinelText s))).1
            = frame s.sentinel block ++ rest →
          (evaluate child s errors state expression).1
              = (if errors.isMatch (unlines (blockLines block)) then
                  .error (unlines (blockLines block))
                else .ok (unlines (blockLines block)))
            ∧ (evaluate child s errors state expression).2.unread = rest := by
  refine ⟨?_, ?_, ?_⟩
  · intro k hk
    have hsplit : stream s.sentinel blocks
        = stream s.sentinel (blocks.take k) ++ stream s.sentinel (blocks.drop k) := by
      unfold stream
      rw [← List.flatMap_append, List.take_append_drop]
    have htake : (blocks.take k).length = k := List.length_take_of_le hk
    have h := responses_stream hs (fun block hblock => hb block (List.take_subset k blocks hblock))
      (stream s.sentinel (blocks.drop k))
    rwa [htake, ← hsplit] at h
  · have h := responses_stream hs hb []
    rw [List.append_nil] at h
    rw [responses_add, h, responses_succ, readResponse_nil]
    rfl
  · intro σ child errors state expression hlistens block hblock rest hprinted
    rw [evaluate_block child s hs errors state expression hlistens (hb block hblock) hprinted]
    exact ⟨rfl, rfl⟩

/-- A block that runs into its sentinel, one that is empty, and one with a line
that only contains the sentinel. -/
theorem responses_exact_sample :
    responses "--exemplar-done--" 4
        (stream "--exemplar-done--" ["foo\r\nbar", "", "--exemplar-done-- \n"])
      = ([.ok ["foo", "bar"], .ok [], .ok ["--exemplar-done-- "], .error .closed], []) := by
  have hs : IsSentinel "--exemplar-done--" := ⟨by decide, by decide, by decide⟩
  exact (responses_exact {} hs ["foo\r\nbar", "", "--exemplar-done-- \n"] (by decide)).2.1

end Wire

end Rehearsal
