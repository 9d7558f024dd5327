/-
  Rehearsal.Suite
  ──────────────────────────────────────
  **What is rehearsed.**

  A `Suite` holds an optional group of setup items and a list of groups.  An
  item is a dialogue (a chain of steps that share the state of the session) or a
  law (an expression that is checked as a property).  Every step and every law
  knows its `Place`.
-/
import Rehearsal.Text.Chars

namespace Rehearsal

/-! ## §1. Places. -/

/-- Where a step or a law was written down. -/
inductive Place where
  /-- A line of a source file. -/
  | line (file : Text) (number : Nat)
  /-- Material without a position of its own. -/
  | label (text : Text)
  deriving DecidableEq, Repr

/-- The place as a report shows it. -/
def Place.shown : Place → Text
  | .line file number => file ++ ':' :: Text.ofNat number
  | .label text => text

/-! ## §2. Items. -/

/-- One expression and the lines that its answer should consist of. -/
structure Step where
  place : Place
  expression : Text
  expected : List Text
  deriving DecidableEq, Repr

/-- An expression to be checked as a property. -/
structure Law where
  place : Place
  expression : Text
  deriving DecidableEq, Repr

/-- A single testable unit of a group. -/
inductive Item where
  /-- The first step that does not succeed ends the dialogue. -/
  | dialogue (steps : List Step)
  | law (law : Law)
  deriving DecidableEq, Repr

/-- Items that are run after one reload of the session. -/
abbrev Group := List Item

/-- A named list of groups, with the setup that is replayed before each. -/
structure Suite where
  name : Text
  setup : Option Group
  groups : List Group
  deriving DecidableEq, Repr

/-! ## §3. Counting what can be tried. -/

/-- The sum of a number over a list. -/
def total {α : Type} (f : α → Nat) : List α → Nat
  | [] => 0
  | a :: rest => f a + total f rest

/-- The number of outcomes that an item can have. -/
def Item.size : Item → Nat
  | .dialogue steps => steps.length
  | .law _ => 1

namespace Group

/-- The number of outcomes that the items of a group can have. -/
def size (g : Group) : Nat := total Item.size g

/-- The dialogues of a group, in order. -/
def dialogues : Group → List (List Step)
  | [] => []
  | .dialogue steps :: rest => steps :: dialogues rest
  | .law _ :: rest => dialogues rest

/-- The laws of a group, in order. -/
def laws : Group → List Law
  | [] => []
  | .law l :: rest => l :: laws rest
  | .dialogue _ :: rest => laws rest

end Group

/-- The number of outcomes that a suite can have, setup included. -/
def Suite.size (s : Suite) : Nat :=
  total Group.size (s.setup.toList ++ s.groups)

/-- The number of outcomes that a list of suites can have. -/
def countExamples (suites : List Suite) : Nat := total Suite.size suites

end Rehearsal
