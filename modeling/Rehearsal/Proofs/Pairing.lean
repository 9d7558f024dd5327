/-
  Rehearsal.Proofs.Pairing
  ──────────────────────────────────────
  **Which response answers which request.**

  Every call gets the reply to the block that waits for longest.  That is its own
  block as long as all blocks before were texts.  Behind a block that is not, it
  is one that was printed for an earlier call, or what is left of it.

    • `run_served` — the reply to one call,
    • `replies_served` — what waits after some calls,
    • `replies_paired_iff` — when every call gets its own reply.
-/
import Rehearsal.Proofs.Backlog

namespace Rehearsal.Wire

open Text

/-! ## §1. Calls and replies. -/

/-- A request to a session. -/
inductive Call where
  | reload
  | evaluate (expression : Text)

/-- What a request comes to. -/
inductive Reply where
  | reloaded (result : Except SessionFault Unit)
  | answered (answer : Answer)

section Calls

variable {σ : Type} (child : Child σ) (s : InterpreterSettings) (errors : Regex.Matcher)

/-- What is written for a call. -/
def Call.text : Call → Text
  | .reload => requestText s s.reload
  | .evaluate expression => requestText s expression

/-- Makes a call. -/
def Call.run (state : State σ) : Call → Reply × State σ
  | .reload => (.reloaded (Wire.reload child s errors state).1, (Wire.reload child s errors state).2)
  | .evaluate expression =>
      (.answered (Wire.evaluate child s errors state expression).1,
        (Wire.evaluate child s errors state expression).2)

/-- Makes one call after the other. -/
def replies : State σ → List Call → List Reply × State σ
  | state, [] => ([], state)
  | state, call :: calls =>
      let (reply, state) := call.run child s errors state
      let (more, state) := replies state calls
      (reply :: more, state)

/-- A child that prints some bytes whatever it is sent. -/
def printing (bytes : Bytes) : Child Unit where
  feed := fun _ _ => (bytes, ())
  listens := fun _ => true

/-- The reply to a call that is the first one of a session and is answered with
this very block. -/
def ownReply (call : Call) (b : Block s.sentinel) : Reply :=
  (call.run (printing b.frame) s errors { child := () }).1

/-- From this state on the child answers what is written to it, each text with
its block and the sentinel. -/
inductive Serves : σ → List (Text × Block s.sentinel) → Prop
  | nil (st : σ) : Serves st []
  | cons {st next : σ} {text : Text} {b : Block s.sentinel}
      {more : List (Text × Block s.sentinel)} (listens : child.listens st = true)
      (feed : child.feed st (utf8 (text ++ sentinelText s)) = (b.frame, next))
      (rest : Serves next more) : Serves st ((text, b) :: more)

/-- What is written for a call, with the block that it is answered with. -/
def written (exchange : Call × Block s.sentinel) : Text × Block s.sentinel :=
  (exchange.1.text s, exchange.2)

variable {child s}

/-! ## §2. What a call is answered with. -/

/-- What a call makes of the output of its exchange. -/
def Call.reply (output : Except SessionFault Text) : Call → Reply
  | .reload => .reloaded (output.bind fun output =>
      if errors.isMatch output then .error (.reload output) else .ok ())
  | .evaluate _ => .answered (match output with
      | .error fault => .error fault.notice.message
      | .ok output => if errors.isMatch output then .error output else .ok output)

/-- A call is an exchange and a look at its output. -/
theorem Call.run_eq (call : Call) (state : State σ) :
    call.run child s errors state
      = (call.reply errors (exchange child s (call.text s) state).1,
          (exchange child s (call.text s) state).2) := by
  cases call <;> rfl

/-- A served exchange reads the block that waits for longest. -/
theorem exchange_served (hs : IsSentinel s.sentinel) {state : State σ} {text : Text} {next : σ}
    {waiting : List (Block s.sentinel)} {b : Block s.sentinel}
    (hunread : state.unread = frames waiting) (hlistens : child.listens state.child = true)
    (hfeed : child.feed state.child (utf8 (text ++ sentinelText s)) = (b.frame, next)) :
    exchange child s text state
      = ((front waiting b).output, ⟨next, frames (advance waiting b)⟩) := by
  have hread := readResponse_frames hs waiting b
  have hprinted : (child.feed state.child (utf8 (text ++ sentinelText s))).1 = b.frame := by
    rw [hfeed]
  rw [← hunread, ← hprinted] at hread
  rw [exchange_read hlistens hread, hfeed]
  rfl

/-- A served call gets the reply to the block that waits for longest. -/
theorem run_served (hs : IsSentinel s.sentinel) {state : State σ} {call : Call} {next : σ}
    {waiting : List (Block s.sentinel)} {b : Block s.sentinel}
    (hunread : state.unread = frames waiting) (hlistens : child.listens state.child = true)
    (hfeed : child.feed state.child (utf8 (call.text s ++ sentinelText s)) = (b.frame, next)) :
    call.run child s errors state
      = (call.reply errors (front waiting b).output, ⟨next, frames (advance waiting b)⟩) := by
  rw [Call.run_eq, exchange_served hs hunread hlistens hfeed]

/-- With nothing unread, a served call gets the reply to its own block. -/
theorem run_fresh (hs : IsSentinel s.sentinel) {state : State σ} {call : Call} {next : σ}
    {b : Block s.sentinel} (hunread : state.unread = [])
    (hlistens : child.listens state.child = true)
    (hfeed : child.feed state.child (utf8 (call.text s ++ sentinelText s)) = (b.frame, next)) :
    call.run child s errors state
      = (call.reply errors b.output, ⟨next, frames (advance [] b)⟩) := by
  have hnone : state.unread = frames ([] : List (Block s.sentinel)) := hunread
  exact run_served errors hs hnone hlistens hfeed

theorem ownReply_eq (hs : IsSentinel s.sentinel) (call : Call) (b : Block s.sentinel) :
    ownReply s errors call b = call.reply errors b.output := by
  have h : call.run (printing b.frame) s errors { child := () } = _ :=
    run_fresh errors hs rfl rfl rfl
  unfold ownReply
  rw [h]

theorem replies_cons (call : Call) (calls : List Call) (state : State σ) :
    replies child s errors state (call :: calls)
      = ((call.run child s errors state).1
            :: (replies child s errors (call.run child s errors state).2 calls).1,
          (replies child s errors (call.run child s errors state).2 calls).2) := rfl

theorem replies_append (a b : List Call) (state : State σ) :
    replies child s errors state (a ++ b)
      = ((replies child s errors state a).1
            ++ (replies child s errors (replies child s errors state a).2 b).1,
          (replies child s errors (replies child s errors state a).2 b).2) := by
  induction a generalizing state with
  | nil => rfl
  | cons call a ih =>
    rw [List.cons_append, replies_cons, replies_cons, ih]
    rfl

/-- What waits after some calls is the backlog of their blocks. -/
theorem replies_served (hs : IsSentinel s.sentinel) {past : List (Call × Block s.sentinel)}
    {more : List (Text × Block s.sentinel)} {waiting : List (Block s.sentinel)} {state : State σ}
    (hunread : state.unread = frames waiting)
    (h : Serves child s state.child (past.map (written s) ++ more)) :
    (replies child s errors state (past.map (·.1))).2.unread
        = frames (backlog waiting (past.map (·.2)))
      ∧ Serves child s (replies child s errors state (past.map (·.1))).2.child more := by
  induction past generalizing waiting state with
  | nil => exact ⟨hunread, h⟩
  | cons p past ih =>
    cases h with
    | cons listens feed rest =>
      have hrun := run_served errors hs hunread listens feed
      rw [List.map_cons, replies_cons, hrun]
      exact ih rfl rest

/-- The last of some calls gets the reply to the block that waits for longest. -/
theorem replies_last (hs : IsSentinel s.sentinel) {past : List (Call × Block s.sentinel)}
    {call : Call} {b : Block s.sentinel} {state : State σ} (hunread : state.unread = [])
    (h : Serves child s state.child ((past ++ [(call, b)]).map (written s))) :
    (replies child s errors state ((past ++ [(call, b)]).map (·.1))).1
      = (replies child s errors state (past.map (·.1))).1
        ++ [call.reply errors (front (backlog [] (past.map (·.2))) b).output] := by
  have hnone : state.unread = frames ([] : List (Block s.sentinel)) := hunread
  rw [List.map_append] at h
  obtain ⟨hunread', hlast⟩ := replies_served errors hs hnone h
  cases hlast with
  | cons listens feed rest =>
    have hrun := run_served errors hs hunread' listens feed
    rw [List.map_append, List.map_singleton, replies_append, replies_cons, hrun]
    rfl

/-- Behind texts, every call gets its own reply. -/
theorem replies_texts (hs : IsSentinel s.sentinel) {past : List (Call × Block s.sentinel)}
    {last : Call × Block s.sentinel} {state : State σ} (hunread : state.unread = [])
    (h : Serves child s state.child ((past ++ [last]).map (written s)))
    (htexts : ∀ p ∈ past, p.2.IsText) :
    (replies child s errors state ((past ++ [last]).map (·.1))).1
      = (past ++ [last]).map fun p => ownReply s errors p.1 p.2 := by
  induction past generalizing state with
  | nil =>
    cases h with
    | cons listens feed rest =>
      have hrun := run_fresh errors hs hunread listens feed
      rw [List.nil_append, List.map_singleton, List.map_singleton, replies_cons, hrun,
        ownReply_eq errors hs]
      rfl
  | cons p past ih =>
    obtain ⟨hfirst, hothers⟩ := List.forall_mem_cons.mp htexts
    cases h with
    | cons listens feed rest =>
      have hrun := run_fresh errors hs hunread listens feed
      have hnothing : advance [] p.2 = [] := (advance_eq_nil_iff [] p.2).mpr ⟨rfl, hfirst⟩
      rw [hnothing] at hrun
      rw [List.cons_append, List.map_cons, List.map_cons, replies_cons, hrun,
        ownReply_eq errors hs]
      exact congrArg _ (ih rfl rest hothers)

end Calls

/-! ## §3. Telling blocks apart by replies. -/

section Pairing

variable {σ : Type} {s : InterpreterSettings} (errors : Regex.Matcher)

/-- A child that prints one list of bytes after the other. -/
def scripted : Child (List Bytes) where
  feed := fun printed _ => (printed.headD [], printed.tail)
  listens := fun _ => true

theorem serves_scripted (exchanges : List (Text × Block s.sentinel)) :
    Serves scripted s (exchanges.map (·.2.frame)) exchanges := by
  induction exchanges with
  | nil => exact .nil _
  | cons p exchanges ih => exact .cons rfl rfl ih

theorem io_message_ne_nil : SessionFault.io.notice.message ≠ [] := by decide

/-- Every call tells the block of another reply from a given one. -/
theorem exists_other_reply (hs : IsSentinel s.sentinel) (call : Call) (c : Block s.sentinel) :
    ∃ b : Block s.sentinel, call.reply errors b.output ≠ call.reply errors c.output := by
  rcases c.output_cases with h | ⟨t, h⟩
  · -- An empty block is no fault.
    refine ⟨Block.empty _, ?_⟩
    rw [h, Block.output_empty]
    cases call with
    | reload =>
      simp only [Call.reply, Except.bind]
      split <;> simp
    | evaluate expression =>
      have hne := io_message_ne_nil
      simp only [Call.reply]
      split <;> simp [hne.symm]
  · cases call with
    | reload =>
      refine ⟨Block.illFormed _, ?_⟩
      rw [h, Block.output_illFormed]
      simp only [Call.reply, Except.bind]
      split <;> simp
    | evaluate expression =>
      -- Either of two outputs is not the given one.
      by_cases ht : t = []
      · refine ⟨Block.blank hs, ?_⟩
        rw [h, ht, Block.output_blank]
        simp only [Call.reply]
        split <;> split <;> simp
      · refine ⟨Block.empty _, ?_⟩
        rw [h, Block.output_empty]
        simp only [Call.reply]
        split <;> split <;> simp [Ne.symm ht]

/-! ## §4. The start of a session. -/

/-- Starting a session is an exchange, too. -/
theorem greet_eq (hs : IsSentinel s.sentinel) {child : Child σ} {start next : σ}
    {first : Block s.sentinel} (hlistens : child.listens start = true)
    (hfeed : child.feed start (utf8 (preambleText s ++ sentinelText s)) = (first.frame, next)) :
    greet child s errors start = first.output.bind fun output =>
      if errors.isMatch output then .error (.preamble output)
      else .ok ⟨next, frames (advance [] first)⟩ := by
  have hnone : ({ child := start } : State σ).unread = frames ([] : List (Block s.sentinel)) := rfl
  unfold greet
  rw [exchange_served hs hnone hlistens hfeed]
  rfl

/-- A session starts behind the block of its preamble, which is a text. -/
theorem greet_served (hs : IsSentinel s.sentinel) {child : Child σ} {start : σ} {state : State σ}
    {first : Block s.sentinel} {more : List (Text × Block s.sentinel)}
    (h : Serves child s start ((preambleText s, first) :: more))
    (hgreet : greet child s errors start = .ok state) :
    first.IsText ∧ state.unread = [] ∧ Serves child s state.child more := by
  cases h with
  | cons listens feed rest =>
    rw [greet_eq errors hs listens feed] at hgreet
    rcases first.output_cases with hio | ⟨t, ht⟩
    · rw [hio] at hgreet
      exact absurd hgreet (by simp [Except.bind])
    · have htext : first.IsText := by
        by_cases htext : first.IsText
        · exact htext
        · exact absurd (ht.symm.trans (first.output_eq_io_iff.mpr htext)) (by simp)
      have hnothing : advance [] first = [] := (advance_eq_nil_iff [] first).mpr ⟨rfl, htext⟩
      rw [ht, hnothing] at hgreet
      simp only [Except.bind] at hgreet
      split at hgreet
      · exact absurd hgreet (by simp)
      · rw [← Except.ok.inj hgreet]
        exact ⟨htext, rfl, rest⟩

/-- A session starts with a preamble that prints nothing. -/
theorem greet_scripted (hs : IsSentinel s.sentinel) (hquiet : errors.isMatch [] = false)
    (printed : List Bytes) :
    greet scripted s errors ((Block.empty s.sentinel).frame :: printed)
      = .ok { child := printed } := by
  have hnothing : advance [] (Block.empty s.sentinel) = [] :=
    (advance_eq_nil_iff [] _).mpr ⟨rfl, Block.isText_ofTexts [] _⟩
  have hgreet : greet scripted s errors ((Block.empty s.sentinel).frame :: printed) = _ :=
    greet_eq errors hs rfl rfl
  rw [hgreet, Block.output_empty, hnothing]
  show (if errors.isMatch [] = true then _ else _) = _
  rw [hquiet]
  rfl

/-! ## §5. When every call gets its own reply. -/

/-- Behind a line that is no text, the next call gets the reply to what is left
of its block. -/
theorem exists_unpaired (hs : IsSentinel s.sentinel) (hquiet : errors.isMatch [] = false)
    (call call' : Call) :
    ∃ (b : Block s.sentinel) (state : State (List Bytes)),
      Serves scripted s ((Block.empty s.sentinel).frame :: state.child)
        ((preambleText s, .empty _) :: [(call, .illFormed _), (call', b)].map (written s))
      ∧ greet scripted s errors ((Block.empty s.sentinel).frame :: state.child) = .ok state
      ∧ (replies scripted s errors state [call, call']).1
        ≠ [ownReply s errors call (.illFormed _), ownReply s errors call' b] := by
  obtain ⟨b, hother⟩ := exists_other_reply errors hs call' (.empty _)
  let past : List (Call × Block s.sentinel) := [(call, .illFormed _)]
  let state : State (List Bytes) := { child := [(Block.illFormed s.sentinel).frame, b.frame] }
  have hserves : Serves scripted s state.child ((past ++ [(call', b)]).map (written s)) :=
    .cons rfl rfl (.cons rfl rfl (.nil _))
  have hlast : (replies scripted s errors state [call, call']).1 = _ :=
    replies_last errors hs rfl hserves
  have hwaiting : backlog [] (past.map (·.2)) = [.empty _] := by
    show Option.toList (Block.left? _) = _
    rw [Block.left?_illFormed]
    rfl
  refine ⟨b, state, .cons rfl rfl hserves, greet_scripted errors hs hquiet _, ?_⟩
  intro hown
  rw [hlast, hwaiting, ownReply_eq errors hs call'] at hown
  change _ ++ [_] = [_] ++ [_] at hown
  have hreply := (List.append_inj' hown rfl).2
  exact hother (List.cons.inj hreply).1.symm

/-- **When requests and replies are paired.**  A session starts with nothing
unread.  From there, a call gets the reply that the block which waits for longest
would get as the first one of a session.  All replies are those of their own
blocks, whatever the last block is, exactly if all blocks before the last one are
well formed. -/
theorem replies_paired_iff (s : InterpreterSettings) (hs : IsSentinel s.sentinel)
    (errors : Regex.Matcher) (past : List (Call × Block s.sentinel)) (call : Call) :
    (∀ {σ : Type} (child : Child σ) (start : σ) (state : State σ) (first : Block s.sentinel)
        (more : List (Text × Block s.sentinel)),
        Serves child s start ((preambleText s, first) :: more) →
        greet child s errors start = .ok state →
        first.IsText ∧ state.unread = [] ∧ Serves child s state.child more)
      ∧ (∀ {σ : Type} (child : Child σ) (state : State σ) (b : Block s.sentinel),
          state.unread = [] →
          Serves child s state.child ((past ++ [(call, b)]).map (written s)) →
          (replies child s errors state ((past ++ [(call, b)]).map (·.1))).1.getLast?
            = some (ownReply s errors call (front (backlog [] (past.map (·.2))) b)))
      ∧ ((∀ {σ : Type} (child : Child σ) (state : State σ) (b : Block s.sentinel),
          state.unread = [] →
          Serves child s state.child ((past ++ [(call, b)]).map (written s)) →
          (replies child s errors state ((past ++ [(call, b)]).map (·.1))).1
            = (past ++ [(call, b)]).map fun p => ownReply s errors p.1 p.2)
        ↔ ∀ p ∈ past, p.2.IsText) := by
  refine ⟨fun child start state first more => greet_served errors hs, ?_, ?_, ?_⟩
  · intro σ child state b hunread hserves
    rw [replies_last errors hs hunread hserves, List.getLast?_concat, ownReply_eq errors hs]
  · intro hpaired
    have hbacklog : backlog [] (past.map (·.2)) = [] := by
      cases hwaiting : backlog [] (past.map (·.2)) with
      | nil => rfl
      | cons c waiting =>
        -- The last call would be answered with a block that waits already.
        obtain ⟨b, hother⟩ := exists_other_reply errors hs call c
        have hserves := serves_scripted ((past ++ [(call, b)]).map (written s))
        have hall := hpaired scripted { child := _ } b rfl hserves
        have hown : ((past ++ [(call, b)]).map fun p => ownReply s errors p.1 p.2)
            = (past.map fun p => ownReply s errors p.1 p.2) ++ [call.reply errors b.output] := by
          rw [List.map_append, List.map_singleton, ownReply_eq errors hs]
        rw [replies_last errors hs rfl hserves, hwaiting, hown] at hall
        have hreply := (List.append_inj' hall rfl).2
        exact absurd (List.cons.inj hreply).1.symm hother
    have htexts := ((backlog_eq_nil_iff [] _).mp hbacklog).2
    intro p hp
    exact htexts p.2 (List.mem_map_of_mem hp)
  · intro htexts σ child state b hunread hserves
    exact replies_texts errors hs hunread hserves htexts

/-- An error pattern. -/
def samplePattern : Regex.Matcher := (Regex.Matcher.read? "not found").getD ⟨0, #[.accept]⟩

/-- A block of one line. -/
def sampleBlock : Block "--exemplar-done--" := .ofTexts ["bar"] (by decide)

/-- The last block need not be a text. -/
theorem replies_paired_iff_sample :
    (replies scripted {} samplePattern
        { child := [sampleBlock.frame, (Block.illFormed "--exemplar-done--").frame] }
        [.evaluate "echo bar", .reload]).1
      = [ownReply {} samplePattern (.evaluate "echo bar") sampleBlock,
          ownReply {} samplePattern .reload (.illFormed _)] := by
  have hs : IsSentinel ({} : InterpreterSettings).sentinel := ⟨by decide, by decide, by decide⟩
  have htexts : ∀ p ∈ [(Call.evaluate "echo bar", sampleBlock)], p.2.IsText := by
    intro p hp
    rw [List.mem_singleton.mp hp]
    exact Block.isText_ofTexts ["bar"] (by decide)
  exact (replies_paired_iff {} hs samplePattern [(.evaluate "echo bar", sampleBlock)]
    .reload).2.2.mpr htexts scripted _ (.illFormed _) rfl (.cons rfl rfl (.cons rfl rfl (.nil _)))

/-- **Requests and replies are not always paired:** behind a block that is not
well formed, the next call is answered with what is left of that block. -/
theorem replies_not_paired :
    ¬ ∀ (s : InterpreterSettings) (errors : Regex.Matcher) (σ : Type) (child : Child σ)
        (start : σ) (state : State σ) (first : Block s.sentinel)
        (exchanges : List (Call × Block s.sentinel)),
        IsSentinel s.sentinel →
        Serves child s start ((preambleText s, first) :: exchanges.map (written s)) →
        greet child s errors start = .ok state →
        (replies child s errors state (exchanges.map (·.1))).1
          = exchanges.map fun p => ownReply s errors p.1 p.2 := by
  intro hpaired
  have hs : IsSentinel ({} : InterpreterSettings).sentinel := ⟨by decide, by decide, by decide⟩
  have hquiet : samplePattern.isMatch [] = false := by decide +kernel
  obtain ⟨b, state, hserves, hgreet, hne⟩ :=
    exists_unpaired samplePattern hs hquiet (.evaluate "printf '\\377\\n'") (.evaluate "echo bar")
  exact hne (hpaired {} samplePattern _ scripted _ state _ _ hs hserves hgreet)

end Pairing

end Rehearsal.Wire
