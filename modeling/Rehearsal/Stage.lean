/-
  Rehearsal.Stage
  ──────────────────────────────────────
  **The state of a run, and the actions on it.**

  A `Stage` holds the state of the session, the console that the report goes to,
  the running tally, what was recorded, and a log of everything that happened,
  in order.  An `Act` works on a stage and either gives a result or a fault; the
  stage it leaves behind is there in both cases.
-/
import Rehearsal.Session
import Rehearsal.Suite
import Rehearsal.Tally
import Rehearsal.Text.Utf8

namespace Rehearsal

/-! ## §1. The stage. -/

/-- Where the report goes. -/
structure Console where
  /-- Progress is shown and overwritten in place. -/
  interactive : Bool := false
  /-- Headers are colored. -/
  colored : Bool := false
  /-- How many more bytes can be written; no limit if absent. -/
  room : Option Nat := none
  /-- Columns of the progress text that stands on the last line. -/
  pending : Nat := 0
  deriving DecidableEq, Repr

/-- Something that happened. -/
inductive Event where
  | reloaded (ok : Bool)
  | asked (expression : Text)
  | wrote (text : Text)
  /-- The bytes that were still accepted when the room ran out. -/
  | cut (bytes : Bytes)
  deriving DecidableEq, Repr

/-- An outcome with what it is the outcome of. -/
structure Record where
  place : Place
  expression : Text
  outcome : Outcome
  deriving DecidableEq, Repr

/-- The state of a run. -/
structure Stage (σ : Type) where
  session : σ
  console : Console := {}
  tally : Tally := .zero
  /-- Every recorded outcome, the first one first. -/
  records : List Record := []
  /-- Everything that happened, the first event first. -/
  log : List Event := []

/-! ## §2. Actions. -/

/-- Works on a stage; a fault ends the run. -/
def Act (σ α : Type) : Type := Stage σ → Except RunFault α × Stage σ

namespace Act

variable {σ α β : Type}

/-- Does nothing. -/
protected def pure (a : α) : Act σ α := fun stage => (.ok a, stage)

/-- One action after the other; a fault of the first is the fault of both. -/
protected def bind (act : Act σ α) (next : α → Act σ β) : Act σ β := fun stage =>
  match act stage with
  | (.ok a, stage) => next a stage
  | (.error fault, stage) => (.error fault, stage)

instance : Monad (Act σ) where
  pure := Act.pure
  bind := Act.bind

/-- Reads the stage. -/
def look (view : Stage σ → α) : Act σ α := fun stage => (.ok (view stage), stage)

/-- Changes the stage. -/
def change (f : Stage σ → Stage σ) : Act σ Unit := fun stage => (.ok (), f stage)

/-- One action for each member of a list, in order. -/
def each (act : α → Act σ Unit) : List α → Act σ Unit
  | [] => Act.pure ()
  | a :: rest => Act.bind (act a) fun _ => each act rest

/-! ## §3. Writing. -/

/-- What is left of the room after `used` bytes. -/
def roomAfter (room : Option Nat) (used : Nat) : Option Nat := room.map (· - used)

/-- Writes a text to the console.  When the room runs out, the bytes that still
fit are written and the run ends. -/
def write (text : Text) : Act σ Unit := fun stage =>
  let bytes := Text.utf8 text
  let fits := match stage.console.room with
    | none => true
    | some room => bytes.length ≤ room
  let console := { stage.console with room := roomAfter stage.console.room bytes.length }
  -- Writing nothing never fails, not even without room.
  if text = [] then (.ok (), stage)
  else if fits then
    (.ok (), { stage with console := console, log := stage.log ++ [.wrote text] })
  else
    let accepted := bytes.take (stage.console.room.getD 0)
    (.error .report,
      { stage with
        console := console
        log := if accepted = [] then stage.log else stage.log ++ [.cut accepted] })

/-! ## §4. The session. -/

/-- Reloads the session. -/
def reload (s : Session σ) : Act σ Unit := fun stage =>
  match s.reload stage.session with
  | (.ok (), session) =>
      (.ok (), { stage with session := session, log := stage.log ++ [.reloaded true] })
  | (.error fault, session) =>
      (.error (.session fault),
        { stage with session := session, log := stage.log ++ [.reloaded false] })

/-- Asks the session for the value of an expression. -/
def ask (s : Session σ) (expression : Text) : Act σ Answer := fun stage =>
  let (answer, session) := s.evaluate stage.session expression
  (.ok answer, { stage with session := session, log := stage.log ++ [.asked expression] })

/-- Holds an inquiry with the session. -/
def converse (s : Session σ) : Inquiry α → Act σ α
  | .done a => Act.pure a
  | .ask e next => Act.bind (ask s e) fun answer => converse s (next answer)

end Act

end Rehearsal
