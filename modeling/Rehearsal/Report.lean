/-
  Rehearsal.Report
  ──────────────────────────────────────
  **The report of a run.**

  Two kinds of text are written: durable lines, which stay, and progress lines,
  which the next write overwrites in place.  To overwrite, the cursor goes back
  to the start of the line and what the new text leaves of the old one is
  covered with spaces; all that is remembered of the old text is its width.
-/
import Rehearsal.Stage
import Rehearsal.Text.Lines
import Rehearsal.Text.Width

namespace Rehearsal

/-! ## §1. Colors. -/

/-- The colors of the two kinds of headers. -/
inductive Paint where
  | red
  | yellow
  deriving DecidableEq, Repr

/-- The codes that switch to a bold color. -/
def Paint.codes : Paint → Text
  | .red => "\x1b[0m\x1b[1m\x1b[31m"
  | .yellow => "\x1b[0m\x1b[1m\x1b[33m"

/-- The code that ends all coloring. -/
def resetCode : Text := "\x1b[0m"

/-- When a report is colored. -/
inductive ColorChoice where
  | auto
  | always
  | alwaysAnsi
  | never
  deriving DecidableEq, Repr

/-- An automatic choice never colors a stream that is not a terminal. -/
def ColorChoice.effective (choice : ColorChoice) (interactive : Bool) : ColorChoice :=
  if choice = .auto ∧ interactive = false then .never else choice

/-! ## §2. Lines. -/

namespace Report

variable {σ : Type}

/-- Sets the width of the progress text on the last line. -/
def settle (width : Nat) : Act σ Unit :=
  Act.change fun stage => { stage with console := { stage.console with pending := width } }

/-- Writes codes where the console is colored. -/
def writeCodes (codes : Text) : Act σ Unit := do
  if ← Act.look (·.console.colored) then Act.write codes

/-- Writes a message over the progress text, if there is one. -/
def overwrite (message : Text) (paint : Option Paint) : Act σ Unit := do
  let pending ← Act.look (·.console.pending)
  if pending > 0 then Act.write "\r"
  match paint with
  | some paint =>
      writeCodes paint.codes
      Act.write message
      writeCodes resetCode
  | none => Act.write message
  -- Only what sticks out behind the new text has to be covered.
  Act.write (List.replicate (pending - Text.width message) ' ')

/-- Writes a durable line. -/
def line (message : Text) (paint : Option Paint) : Act σ Unit := do
  overwrite message paint
  Act.write ['\n']
  settle 0

/-- Writes a durable line without color. -/
def plainLine (message : Text) : Act σ Unit := line message none

/-- Writes every line of a block durably. -/
def block (text : Text) : Act σ Unit := Act.each plainLine (Text.lines text)

/-- Writes a line that the next write replaces, if the console is interactive. -/
def progress (message : Text) : Act σ Unit := do
  if ← Act.look (·.console.interactive) then
    overwrite message none
    settle (Text.width message)

/-! ## §3. Tallies and outcomes. -/

/-- Shows the running tally as progress. -/
def showProgress : Act σ Unit := do progress (← Act.look (·.tally.shown))

/-- Writes the running tally as a durable line. -/
def showTally : Act σ Unit := do plainLine (← Act.look (·.tally.shown))

/-- Adds to the running tally. -/
def count (delta : Tally) : Act σ Unit :=
  Act.change fun stage => { stage with tally := stage.tally + delta }

/-- The header over the text of a problem. -/
def header (kind : Text) (place : Place) (expression : Text) : Text :=
  ("### " : Text) ++ kind ++ (" in " : Text) ++ place.shown ++ (": expression `" : Text)
    ++ expression ++ ("'" : Text)

/-- Writes a problem: its header, its text and an empty line. -/
def problem (head : Text) (paint : Paint) (text : Text) : Act σ Unit := do
  line head (some paint)
  block text
  plainLine []

/-- Writes what is to be told of an outcome. -/
def tell (place : Place) (expression : Text) : Outcome → Act σ Unit
  | .success => pure ()
  | .failure diagnostic => problem (header "Failure" place expression) .red diagnostic
  | .error message => problem (header "Error" place expression) .yellow message

/-- Writes what is to be told of an outcome, then counts it. -/
def record (place : Place) (expression : Text) (outcome : Outcome) : Act σ Unit := do
  -- The counters move only when all of the text was written.
  tell place expression outcome
  count outcome.delta
  Act.change fun stage =>
    { stage with records := stage.records ++ [⟨place, expression, outcome⟩] }

end Report

end Rehearsal
