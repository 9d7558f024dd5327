/-
  Rehearsal.Proofs.Frame
  ──────────────────────────────────────
  **What an act keeps, and how it can fail.**

  A `Frame` relates the stage before an act to the one it leaves behind and says
  which faults the act may end with.  A frame that the basic acts respect is
  respected by everything that is put together from them, a report and a whole
  run; this is used for

    • `unmoved` — writing changes neither session, tally, records nor requests,
    • `unlimited` — without a limit on its room, a console never fails.
-/
import Rehearsal.Proofs.Composition
import Rehearsal.Proofs.Course

namespace Rehearsal

variable {σ α β : Type}

/-- What is kept from the stage before an act to the stage behind it, and the
faults that the act may end with. -/
structure Frame (σ : Type) where
  Kept : Stage σ → Stage σ → Prop
  Allowed : Stage σ → RunFault → Prop
  refl : ∀ a, Kept a a
  trans : ∀ {a b c}, Kept a b → Kept b c → Kept a c
  back : ∀ {a b fault}, Kept a b → Allowed b fault → Allowed a fault

/-- The console after `used` more bytes. -/
def Console.after (console : Console) (used : Nat) : Console :=
  { console with room := Act.roomAfter console.room used }

/-- **What a write can do.**  Writing nothing leaves the stage alone.  A text that
fits is added to the log.  Of any other text the bytes that still fit are. -/
theorem Act.write_cases (text : Text) (before : Stage σ) :
    (text = [] ∧ Act.write text before = (.ok (), before))
      ∨ (text ≠ [] ∧ (∀ room, before.console.room = some room → (Text.utf8 text).length ≤ room)
          ∧ Act.write text before = (.ok (), { before with
              console := before.console.after (Text.utf8 text).length
              log := before.log ++ [.wrote text] }))
      ∨ ∃ room, before.console.room = some room ∧ room < (Text.utf8 text).length
          ∧ Act.write text before = (.error .report, { before with
              console := before.console.after (Text.utf8 text).length
              log := if (Text.utf8 text).take room = [] then before.log
                else before.log ++ [.cut ((Text.utf8 text).take room)] }) := by
  unfold Act.write
  by_cases hempty : text = []
  · left
    simp [hempty]
  · right
    simp only [if_neg hempty]
    cases hroom : before.console.room with
    | none =>
      left
      refine ⟨hempty, fun _ h => absurd h (by simp), ?_⟩
      simp [Console.after, hroom]
    | some room =>
      by_cases hfits : (Text.utf8 text).length ≤ room
      · left
        refine ⟨hempty, fun _ h => Option.some.inj h ▸ hfits, ?_⟩
        simp [Console.after, hroom, hfits]
      · right
        refine ⟨room, rfl, by omega, ?_⟩
        simp [Console.after, hroom, hfits]

namespace Frame

variable {F : Frame σ}

/-- The act respects the frame, whatever it ends with. -/
def Holds (F : Frame σ) (act : Act σ α) : Prop :=
  ∀ before, F.Kept before (act before).2
    ∧ ∀ fault, (act before).1 = .error fault → F.Allowed before fault

/-! ## §1. Putting acts together. -/

theorem Holds.pure (a : α) : F.Holds (Pure.pure a : Act σ α) :=
  fun before => ⟨F.refl before, fun _ h => by cases h⟩

theorem Holds.look (view : Stage σ → α) : F.Holds (Act.look view) :=
  fun before => ⟨F.refl before, fun _ h => by cases h⟩

/-- One act after the other: what the first one keeps, the second one keeps, and
a fault of the second one is allowed from the start. -/
theorem Holds.bind {act : Act σ α} {next : α → Act σ β} (h : F.Holds act)
    (hn : ∀ a, F.Holds (next a)) : F.Holds (act >>= next) := by
  intro before
  obtain ⟨kept, faults⟩ := h before
  show F.Kept before (Act.bind act next before).2
    ∧ ∀ fault, (Act.bind act next before).1 = .error fault → F.Allowed before fault
  unfold Act.bind
  cases hact : act before with
  | mk result mid =>
    rw [hact] at kept faults
    cases result with
    | error fault => exact ⟨kept, fun _ h => faults _ (by simpa using h)⟩
    | ok a =>
      obtain ⟨kept', faults'⟩ := hn a mid
      exact ⟨F.trans kept kept', fun fault h => F.back kept (faults' fault h)⟩

/-- A frame is a property of acts that are put together. -/
theorem composes (F : Frame σ) : Act.Composes F.Holds where
  pure := Holds.pure
  bind := Holds.bind

end Frame

/-! ## §2. Writing moves nothing but the console. -/

/-- Session, tally, records and requests are as before. -/
structure Unmoved (before after : Stage σ) : Prop where
  session : after.session = before.session
  tally : after.tally = before.tally
  records : after.records = before.records
  requests : after.log.filter Event.isRequest = before.log.filter Event.isRequest

/-- The frame of acts that only write; they can only fail to write. -/
def Frame.unmoved (σ : Type) : Frame σ where
  Kept := Unmoved
  Allowed _ fault := fault = .report
  refl _ := ⟨rfl, rfl, rfl, rfl⟩
  trans h h' := ⟨h'.session.trans h.session, h'.tally.trans h.tally, h'.records.trans h.records,
    h'.requests.trans h.requests⟩
  back _ h := h

theorem Frame.unmoved_writes : Report.Family (Frame.unmoved σ).Holds where
  toComposes := Frame.composes _
  look view _ := Frame.Holds.look view
  write text := by
    intro before
    rcases Act.write_cases text before with ⟨-, h⟩ | ⟨-, -, h⟩ | ⟨room, -, -, h⟩ <;> rw [h]
    · exact ⟨(Frame.unmoved σ).refl before, fun _ h => by cases h⟩
    · exact ⟨⟨rfl, rfl, rfl, by simp [Event.isRequest]⟩, fun _ h => by cases h⟩
    · refine ⟨⟨rfl, rfl, rfl, ?_⟩, fun fault h => (Except.error.inj h).symm⟩
      -- The bytes in front of the failing one are no request either.
      dsimp only
      split
      · rfl
      · simp [Event.isRequest]
  settle width := fun before => ⟨⟨rfl, rfl, rfl, rfl⟩, fun _ h => by cases h⟩

/-! ## §3. A console without a limit never fails. -/

/-- The frame of a console without a limit on its room. -/
def Frame.unlimited (σ : Type) : Frame σ where
  Kept before after := before.console.room = none → after.console.room = none
  Allowed before fault := before.console.room = none → fault ≠ .report
  refl _ h := h
  trans h h' hroom := h' (h hroom)
  back h h' hroom := h' (h hroom)

theorem Frame.unlimited_writes : Report.Family (Frame.unlimited σ).Holds where
  toComposes := Frame.composes _
  look view _ := Frame.Holds.look view
  write text := by
    intro before
    rcases Act.write_cases text before with ⟨-, h⟩ | ⟨-, -, h⟩ | ⟨room, hroom, -, h⟩ <;> rw [h]
    · exact ⟨fun hroom => hroom, fun _ h => by cases h⟩
    · refine ⟨fun hroom => ?_, fun _ h => by cases h⟩
      simp [Console.after, Act.roomAfter, hroom]
    · -- Only a console with a limit comes here.
      refine ⟨fun hnone => ?_, fun _ _ hnone => ?_⟩ <;>
        exact absurd (hroom.symm.trans hnone) (by simp)
  settle width := fun before => ⟨fun hroom => hroom, fun _ h => by cases h⟩

theorem Frame.unlimited_runs (s : Session σ) : Rehearser.Family s (Frame.unlimited σ).Holds where
  toComposes := Frame.composes _
  tally := Frame.Holds.look _
  reload := by
    intro before
    unfold Act.reload
    split
    · exact ⟨fun hroom => hroom, fun _ h => by cases h⟩
    · refine ⟨fun hroom => hroom, fun fault h _ => ?_⟩
      rw [← Except.error.inj h]
      simp
  ask expression := fun before => ⟨fun hroom => hroom, fun _ h => by cases h⟩
  record place expression outcome :=
    Frame.Holds.bind (Frame.unlimited_writes.tell place expression outcome) fun _ =>
      Frame.Holds.bind (fun before => ⟨fun hroom => hroom, fun _ h => by cases h⟩) fun _ =>
        fun before => ⟨fun hroom => hroom, fun _ h => by cases h⟩
  showProgress := Frame.unlimited_writes.showProgress
  showTally := Frame.unlimited_writes.showTally

end Rehearsal
