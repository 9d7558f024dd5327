/-
  Rehearsal.Proofs.Truncation
  ──────────────────────────────────────
  **A console that runs full only cuts a run off.**

  An act is held twice, on a console without a limit and on one that takes `n`
  more bytes.  As long as all bytes fit, the two do the same.  Where they do not,
  the second one ends with the failed write, and its trail is that of the first
  one up to the byte that no longer fits: nothing is asked and nothing is written
  behind it.

    • `Truncates.bind` — acts that are only cut off, one after the other, are,
    • `Act.truncates_write` — a write is cut off at a byte,
    • `Rehearser.rehearse_truncated` — a whole run is.
-/
import Rehearsal.Proofs.Frame

namespace Rehearsal

variable {σ α β : Type}

/-! ## §1. Trails. -/

/-- An event as it is seen from outside: a request, or one byte after the other. -/
def Event.trail : Event → List (Event ⊕ UInt8)
  | .reloaded ok => [.inl (.reloaded ok)]
  | .asked expression => [.inl (.asked expression)]
  | .wrote text => (Text.utf8 text).map .inr
  | .cut bytes => bytes.map .inr

/-- The requests and the written bytes of a log, in order. -/
def trail (log : List Event) : List (Event ⊕ UInt8) := log.flatMap Event.trail

/-- The bytes of a trail. -/
def bytesOf (items : List (Event ⊕ UInt8)) : Bytes := items.filterMap Sum.getRight?

/-- Everything that was written, as bytes. -/
def written (log : List Event) : Bytes := bytesOf (trail log)

theorem trail_append (a b : List Event) : trail (a ++ b) = trail a ++ trail b :=
  List.flatMap_append

theorem bytesOf_append (a b : List (Event ⊕ UInt8)) : bytesOf (a ++ b) = bytesOf a ++ bytesOf b :=
  List.filterMap_append

theorem written_append (a b : List Event) : written (a ++ b) = written a ++ written b := by
  unfold written
  rw [trail_append, bytesOf_append]

theorem bytesOf_map_inr (bytes : Bytes) : bytesOf (bytes.map .inr) = bytes := by
  induction bytes with
  | nil => rfl
  | cons byte bytes ih => exact congrArg (byte :: ·) ih

/-- What is left of a trail where room for `n` bytes runs out: all that comes
before the first byte for which there is no room. -/
def CutAt (n : Nat) (whole left : List (Event ⊕ UInt8)) : Prop :=
  (bytesOf left).length = n ∧ ∃ byte rest, whole = left ++ .inr byte :: rest

namespace CutAt

variable {n : Nat} {whole left : List (Event ⊕ UInt8)}

/-- The bytes that are left are the first ones. -/
theorem bytesOf_eq (h : CutAt n whole left) : bytesOf left = (bytesOf whole).take n := by
  obtain ⟨hlength, byte, rest, rfl⟩ := h
  rw [bytesOf_append, ← hlength, List.take_left]

/-- More bytes were written than there was room for. -/
theorem lt_length (h : CutAt n whole left) : n < (bytesOf whole).length := by
  obtain ⟨hlength, byte, rest, rfl⟩ := h
  rw [bytesOf_append, List.length_append, hlength]
  show n < n + ((bytesOf rest).length + 1)
  omega

/-- What would have followed does not matter. -/
theorem append_right (h : CutAt n whole left) (more : List (Event ⊕ UInt8)) :
    CutAt n (whole ++ more) left := by
  obtain ⟨hlength, byte, rest, rfl⟩ := h
  exact ⟨hlength, byte, rest ++ more, by rw [List.append_assoc]; rfl⟩

/-- What went before is there in full. -/
theorem append_left (before : List (Event ⊕ UInt8)) (hroom : (bytesOf before).length ≤ n)
    (h : CutAt (n - (bytesOf before).length) whole left) :
    CutAt n (before ++ whole) (before ++ left) := by
  obtain ⟨hlength, byte, rest, rfl⟩ := h
  refine ⟨?_, byte, rest, (List.append_assoc _ _ _).symm⟩
  rw [bytesOf_append, List.length_append, hlength]
  omega

/-- A text for which there is not enough room. -/
theorem of_bytes {bytes : Bytes} (h : n < bytes.length) :
    CutAt n (bytes.map .inr) ((bytes.take n).map .inr) := by
  refine ⟨?_, bytes[n], (bytes.drop (n + 1)).map .inr, ?_⟩
  · rw [bytesOf_map_inr, List.length_take]
    omega
  · rw [← List.map_cons, ← List.drop_eq_getElem_cons h, ← List.map_append, List.take_append_drop]

end CutAt

/-! ## §2. Acts that are only cut off. -/

/-- How an act ends on a console that takes `n` bytes, beside how it ends on one
without a limit: in the same way if the bytes of its events fit, else with the
failed write, behind what fits. -/
def Bounded (n : Nat) (log events : List Event) (free bound : Except RunFault α × Stage σ) : Prop :=
  ((written events).length ≤ n
      ∧ bound = (free.1, free.2.withRoom (some (n - (written events).length))))
    ∨ (bound.1 = .error .report
      ∧ ∃ left, bound.2.log = log ++ left ∧ CutAt n (trail events) (trail left))

/-- A limit on the room of the console only cuts the act off. -/
def Truncates (act : Act σ α) : Prop :=
  ∀ before, before.console.room = none → ∀ n, ∃ events,
    (act before).2.log = before.log ++ events
      ∧ (act before).2.console.room = none
      ∧ Bounded n before.log events (act before) (act (before.withRoom (some n)))

namespace Truncates

/-- An act that takes no notice of the room and writes nothing. -/
theorem of_silent {act : Act σ α}
    (hroom : ∀ before room, act (before.withRoom room)
      = ((act before).1, (act before).2.withRoom room))
    (hlog : ∀ before, ∃ events, (act before).2.log = before.log ++ events ∧ written events = [])
    : Truncates act := by
  intro before hnone n
  obtain ⟨events, hevents, hwritten⟩ := hlog before
  refine ⟨events, hevents, ?_, .inl ?_⟩
  · have h := hroom before none
    rw [show before.withRoom none = before from by rw [← hnone]; rfl] at h
    have hconsole := congrArg (fun done => done.2.console.room) h
    exact hconsole
  · rw [hwritten]
    exact ⟨Nat.zero_le n, hroom before (some n)⟩

/-- **One act after the other:** if the first one is cut off, nothing follows;
otherwise the second one has the room that is left. -/
theorem bind {act : Act σ α} {next : α → Act σ β} (h : Truncates act)
    (hn : ∀ a, Truncates (next a)) : Truncates (act >>= next) := by
  intro before hnone n
  obtain ⟨events, hlog, hroom, hbounded⟩ := h before hnone n
  show ∃ events, (Act.bind act next before).2.log = before.log ++ events
    ∧ (Act.bind act next before).2.console.room = none
    ∧ Bounded n before.log events (Act.bind act next before)
      (Act.bind act next (before.withRoom (some n)))
  unfold Act.bind
  cases hfree : act before with
  | mk result mid =>
    rw [hfree] at hlog hroom hbounded
    cases result with
    | error fault =>
      refine ⟨events, hlog, hroom, ?_⟩
      rcases hbounded with ⟨hfits, hbound⟩ | ⟨hfault, hleft⟩
      · rw [hbound]
        exact .inl ⟨hfits, rfl⟩
      · cases hbound : act (before.withRoom (some n)) with
        | mk result' stage =>
          rw [hbound] at hfault hleft
          obtain rfl : result' = .error .report := hfault
          exact .inr ⟨rfl, hleft⟩
    | ok a =>
      obtain ⟨more, hmore, hroom', hbounded'⟩ := hn a mid hroom (n - (written events).length)
      refine ⟨events ++ more, ?_, hroom', ?_⟩
      · rw [hmore, hlog, List.append_assoc]
      rcases hbounded with ⟨hfits, hbound⟩ | ⟨hfault, left, hleft, hcut⟩
      · rw [hbound]
        rcases hbounded' with ⟨hfits', hbound'⟩ | ⟨hfault', left', hleft', hcut'⟩
        · refine .inl ⟨?_, ?_⟩
          · rw [written_append, List.length_append]
            omega
          · rw [written_append, List.length_append, ← Nat.sub_sub]
            exact hbound'
        · refine .inr ⟨hfault', events ++ left', ?_, ?_⟩
          · rw [← List.append_assoc, ← hlog]
            exact hleft'
          · rw [trail_append, trail_append]
            exact CutAt.append_left (trail events) hfits hcut'
      · -- The first act is cut off, so the second one is not reached.
        cases hbound : act (before.withRoom (some n)) with
        | mk result' stage =>
          rw [hbound] at hfault hleft
          obtain rfl : result' = .error .report := hfault
          refine .inr ⟨rfl, left, hleft, ?_⟩
          rw [trail_append]
          exact hcut.append_right _

theorem pure (a : α) : Truncates (Pure.pure a : Act σ α) :=
  of_silent (fun _ _ => rfl) fun _ => ⟨[], (List.append_nil _).symm, rfl⟩

theorem look (view : Stage σ → α) (h : ∀ stage room, view (stage.withRoom room) = view stage) :
    Truncates (Act.look view) :=
  of_silent (fun before room => by
    show (Except.ok (view (before.withRoom room)), before.withRoom room) = _
    rw [h]
    rfl) fun _ => ⟨[], (List.append_nil _).symm, rfl⟩

theorem composes : Act.Composes (σ := σ) Truncates where
  pure := pure
  bind := bind

end Truncates

/-! ## §3. Reports and runs. -/

/-- **A write is cut off at a byte.** -/
theorem Act.truncates_write (text : Text) : Truncates (Act.write text : Act σ Unit) := by
  intro before hnone n
  rcases Act.write_cases text before with ⟨rfl, hfree⟩ | ⟨hne, -, hfree⟩ | ⟨room, hroom, -⟩
  · rw [hfree]
    exact ⟨[], (List.append_nil _).symm, hnone, .inl ⟨Nat.zero_le n, rfl⟩⟩
  · rw [hfree]
    have htrail : trail [.wrote text] = (Text.utf8 text).map .inr := List.append_nil _
    have hwritten : written [.wrote text] = Text.utf8 text := by
      unfold written
      rw [htrail, bytesOf_map_inr]
    refine ⟨[.wrote text], rfl, ?_, ?_⟩
    · show Act.roomAfter before.console.room _ = none
      rw [hnone]
      rfl
    rcases Act.write_cases text (before.withRoom (some n)) with
      ⟨hnil, -⟩ | ⟨-, hfits, hbound⟩ | ⟨room, hroom, hlt, hbound⟩
    · exact absurd hnil hne
    · rw [hbound]
      refine .inl ⟨?_, ?_⟩
      · rw [hwritten]
        exact hfits n rfl
      · rw [hwritten]
        rfl
    · obtain rfl : n = room := Option.some.inj hroom
      rw [hbound]
      refine .inr ⟨rfl, if (Text.utf8 text).take n = [] then [] else [.cut ((Text.utf8 text).take n)],
        ?_, ?_⟩
      · show (if _ then before.log else before.log ++ _) = before.log ++ if _ then _ else _
        split
        · exact (List.append_nil _).symm
        · rfl
      · -- Without any byte that fits, there is no event.
        have hleft : trail (if (Text.utf8 text).take n = [] then []
            else [.cut ((Text.utf8 text).take n)]) = ((Text.utf8 text).take n).map .inr := by
          split
          · rename_i hnil
            rw [hnil]
            rfl
          · exact List.append_nil _
        rw [hleft, htrail]
        exact CutAt.of_bytes hlt
  · exact absurd (hnone.symm.trans hroom) (by simp)

theorem Report.truncates : Report.Family (σ := σ) Truncates where
  toComposes := Truncates.composes
  look := Truncates.look
  write := Act.truncates_write
  settle _ :=
    .of_silent (fun _ _ => rfl) fun _ => ⟨[], (List.append_nil _).symm, rfl⟩

theorem Act.truncates_reload (s : Session σ) : Truncates (Act.reload s) := by
  refine .of_silent (fun before room => ?_) fun before => ?_
  · rw [Act.reload_eq, Act.reload_eq]
    rfl
  · rw [Act.reload_eq]
    exact ⟨[.reloaded _], rfl, rfl⟩

/-- **Whatever a run does, it is only cut off.** -/
theorem Rehearser.truncates (s : Session σ) : Rehearser.Family s Truncates where
  toComposes := Truncates.composes
  tally := .look _ fun _ _ => rfl
  reload := Act.truncates_reload s
  ask expression := .of_silent (fun _ _ => rfl) fun _ => ⟨[.asked expression], rfl, rfl⟩
  record place expression outcome :=
    .bind (Report.truncates.tell place expression outcome) fun _ =>
      .of_silent (fun _ _ => rfl) fun _ => ⟨[], (List.append_nil _).symm, rfl⟩
  showProgress := Report.truncates.showProgress
  showTally := Report.truncates.showTally

/-- **A console that runs full only cuts a run off.**  If the run writes at most
`n` bytes on a console without a limit, then on one that takes `n` bytes it has
the same log and comes to the same.  Otherwise it ends with the failed write; it
has written the first `n` bytes, and its trail is that of the unlimited run up to
the next byte. -/
theorem Rehearser.rehearse_truncated (r : Rehearser σ) (session : σ) (console : Console)
    (suites : List Suite) (n : Nat) :
    let free := r.rehearse session { console with room := none } suites
    let bound := r.rehearse session { console with room := some n } suites
    ((written free.2.log).length ≤ n → bound.1 = free.1 ∧ bound.2.log = free.2.log)
      ∧ (n < (written free.2.log).length →
        bound.1 = .error .report
          ∧ written bound.2.log = (written free.2.log).take n
          ∧ ∃ byte rest, trail free.2.log = trail bound.2.log ++ .inr byte :: rest) := by
  intro free bound
  obtain ⟨events, hlog, -, hbounded⟩ := (Rehearser.truncates r.session).runAll suites
    { session := session, console := { console with room := none }
      tally := .ofExamples (countExamples suites) } rfl n
  obtain rfl : free.2.log = events := hlog
  rcases hbounded with ⟨hfits, hbound⟩ | ⟨hfault, left, hleft, hcut⟩
  · change bound = _ at hbound
    refine ⟨fun _ => ?_, fun hlt => absurd hfits (Nat.not_le.mpr hlt)⟩
    rw [hbound]
    exact ⟨rfl, rfl⟩
  · obtain rfl : bound.2.log = left := hleft
    refine ⟨fun hfits => absurd hcut.lt_length (Nat.not_lt.mpr hfits), fun _ => ?_⟩
    exact ⟨hfault, hcut.bytesOf_eq, hcut.2⟩

end Rehearsal
