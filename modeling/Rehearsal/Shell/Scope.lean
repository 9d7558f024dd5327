/-
  Rehearsal.Shell.Scope
  ──────────────────────────────────────
  **What is put back after a command.**

  A subshell, a function call, a redirection, an assignment in front of a command
  and a loop change the machine only for a while.  Each scope runs an action and
  then restores its part of the machine, also when the action halts; only a
  command that waits for input keeps everything as it is.
-/
import Rehearsal.Shell.Machine

namespace Rehearsal.Shell

/-! ## §1. Parts of the machine. -/

/-- Runs an action and puts back what a subshell may not change. -/
def inSubshell (act : Action Unit) : Action Unit := do
  let m ← get
  let restore : Action Unit := modify fun n =>
    { m with
      input := n.input, nextLine := n.nextLine, printed := n.printed
      buffers := n.buffers, files := n.files, status := n.status }
  try act
  catch
    | .waiting => throw .waiting
    | _ => pure ()
  restore

/-- Runs an action and puts the channels back. -/
def keepingChannels (act : Action Unit) : Action Unit := do
  let channels := (← get).channels
  let restore : Action Unit := modify fun m => { m with channels := channels }
  try act
  catch
    | .waiting => throw .waiting
    | h =>
        restore
        throw h
  restore

/-- Runs an action with some variables set, and puts them back. -/
def withVars (values : List (Text × Text)) (act : Action Unit) : Action Unit := do
  let old ← values.mapM fun (name, _) => do return (name, ← var? name)
  let exported := (← get).exported
  values.forM fun (name, value) => assignVar name value
  modify fun m => { m with exported := values.map (·.1) ++ m.exported }
  let restore : Action Unit := do
    old.forM fun (name, value) => restoreVar name value
    modify fun m => { m with exported := exported }
  -- What the action exports is kept only if no variable was set for it.
  if values.isEmpty then act
  else
    try act
    catch h =>
      restore
      throw h
    restore

/-- Runs a function body with its own parameters and local variables. -/
def inCall (arguments : List Text) (act : Action Unit) : Action Unit := do
  let params := (← get).params
  let loops := (← get).loops
  modify fun m => { m with params := arguments, hidden := [] :: m.hidden, loops := 0 }
  let restore : Action Unit := do
    (((← get).hidden.head?).getD []).forM fun (name, value) => restoreVar name value
    modify fun m => { m with params := params, hidden := m.hidden.tail, loops := loops }
  try act
  catch
    | .returned => pure ()
    | h =>
        restore
        throw h
  restore

/-! ## §2. Failures and loops. -/

/-- Runs an action whose status is asked for. -/
def inTest (act : Action Unit) : Action Unit := do
  let isTested := (← get).isTested
  let restore : Action Unit := modify fun m => { m with isTested := isTested }
  modify fun m => { m with isTested := true }
  try act
  catch h =>
    restore
    throw h
  restore

/-- Ends the shell if a failure does. -/
def checkFailure : Action Unit := do
  let m ← get
  if m.stopsOnFailure && !m.isTested && m.status ≠ 0 then throw .exited

/-- Runs an action inside one more loop. -/
def inLoop (act : Action Unit) : Action Unit := do
  let restore : Action Unit := modify fun m => { m with loops := m.loops - 1 }
  modify fun m => { m with loops := m.loops + 1 }
  try act
  catch h =>
    restore
    throw h
  restore

/-- Ends a loop, or goes on to its next round, as a halt in its body asks for.
`true` to go on. -/
def loopRound (body : Action Unit) : Action Bool := do
  try
    body
    return true
  catch
    | .broken 0 => return false
    | .broken (n + 1) => throw (.broken n)
    | .continued 0 => return true
    | .continued (n + 1) => throw (.continued n)
    | h => throw h

end Rehearsal.Shell
