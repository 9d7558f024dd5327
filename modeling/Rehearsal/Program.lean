/-
  Rehearsal.Program
  ──────────────────────────────────────
  **The programs that can be started.**

  A program is known by what it prints for the input it has received so far, so
  a running one needs no other state than this input.  There are two: `cat`,
  which prints its input, and `sh`.
-/
import Rehearsal.Shell.Run
import Rehearsal.Wire

namespace Rehearsal

/-! ## §1. Programs. -/

/-- A program with its arguments. -/
inductive Program where
  /-- Prints its input. -/
  | cat
  | sh (invocation : Shell.Invocation)
  /-- Ends at once, because it was called with arguments it does not take. -/
  | refusal
  deriving DecidableEq, Repr

namespace Program

/-- The directories of programs. -/
def directories : List Text := [[], "/bin/", "/usr/bin/"]

/-- A command names a program, with or without its directory. -/
def isNamed (name command : Text) : Bool := directories.any fun d => command = d ++ name

/-- The program that a command and its arguments start. -/
def find? (command : Text) (arguments : List Text) : Option Program :=
  if (command :: arguments).any (·.contains '\x00') then none
  else if isNamed "cat" command then
    some (if arguments.all (fun a => a = ['-'] || a = ['-', 'u']) then .cat else .refusal)
  else if isNamed "sh" command then
    match Shell.Invocation.ofArguments? (Shell.encode command) (arguments.map Shell.encode) with
    | some invocation => some (.sh invocation)
    | none => some .refusal
  else none

/-- What a program has printed when it has received some input, and whether it
still reads. -/
def run (p : Program) (received : Bytes) : Bytes × Bool :=
  match p with
  | .cat => (received, true)
  | .refusal => ([], false)
  | .sh invocation =>
      let (result, machine) := invocation.start (Shell.ofBytes received)
      let printed := machine.printed.foldl (fun t piece => piece ++ t) []
      let reads := match result with
        | .error .waiting => machine.channels.any fun c => c.2 = .input
        | _ => false
      (Shell.toBytes printed, reads)

/-- A program at work. -/
structure Running where
  program : Program
  received : Bytes := []
  /-- How much of what it printed was taken already. -/
  taken : Nat := 0
  reads : Bool := true

/-- Gives a running program more input. -/
def feed (r : Running) (input : Bytes) : Bytes × Running :=
  let received := r.received ++ input
  -- The program is run again from the start; what it printed before is the
  -- beginning of what it prints now.
  let (printed, reads) := r.program.run received
  (printed.drop r.taken, { r with received, taken := printed.length, reads })

/-- A running program as a child process. -/
def child : Child Running where
  feed := feed
  listens := Running.reads

end Program

/-! ## §2. Starting a session. -/

/-- Why an interpreter does not come up. -/
inductive StartFault where
  | settings (fault : SettingsFault)
  | session (fault : SessionFault)
  deriving DecidableEq, Repr

/-- How a start fault is told. -/
def StartFault.notice : StartFault → Notice
  | .settings fault => fault.notice
  | .session fault => fault.notice

/-- A session with a running program. -/
abbrev LiveSession := Session (Wire.State Program.Running)

/-- Starts the interpreter and runs its preamble. -/
def InterpreterSettings.start (s : InterpreterSettings) :
    Except StartFault (LiveSession × Wire.State Program.Running) :=
  match s.errorMatcher with
  | .error fault => .error (.settings fault)
  | .ok errors =>
      match Program.find? s.command s.arguments with
      | none => .error (.session (.spawn s.command))
      | some program =>
          match Wire.greet Program.child s errors { program } with
          | .error fault => .error (.session fault)
          | .ok state => .ok (Wire.session Program.child s errors, state)

end Rehearsal
