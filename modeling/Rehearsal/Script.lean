/-
  Rehearsal.Script
  ──────────────────────────────────────
  **A session that answers from a script.**

  The script lists the answers to an expression in the order in which they are
  given; the last one is repeated.  It does the same for reloads.
-/
import Rehearsal.Session

namespace Rehearsal

/-- What a scripted session answers. -/
structure Script where
  /-- The answers to an expression; the first entry of an expression counts. -/
  answers : List (Text × List Answer) := []
  /-- The answer to any other expression. -/
  default : Answer := .ok []
  /-- The results of reloads; without any, reloads succeed. -/
  reloads : List (Except SessionFault Unit) := []
  /-- A reload starts all answers afresh, even if it fails. -/
  resetOnReload : Bool := false

/-- How far a scripted session has come. -/
structure ScriptState where
  /-- What was asked since the answers were started afresh. -/
  asked : List Text := []
  /-- How often it was reloaded. -/
  reloads : Nat := 0
  deriving Repr

namespace Script

/-- The `n`-th member of a list; past the end the last one. -/
def nthOrLast {α : Type} (xs : List α) (n : Nat) : Option α := xs[n]? <|> xs.getLast?

/-- The answer to an expression that was asked `n` times before. -/
def answer (script : Script) (expression : Text) (n : Nat) : Answer :=
  -- An expression with an empty list is answered like one that is not listed.
  let listed := (script.answers.lookup expression).getD []
  (nthOrLast listed n).getD script.default

/-- The session that follows a script. -/
def session (script : Script) : Session ScriptState where
  reload := fun s =>
    let s' : ScriptState :=
      { asked := if script.resetOnReload then [] else s.asked, reloads := s.reloads + 1 }
    ((nthOrLast script.reloads s.reloads).getD (.ok ()), s')
  evaluate := fun s expression =>
    (script.answer expression (s.asked.count expression),
      { s with asked := expression :: s.asked })

end Script

end Rehearsal
