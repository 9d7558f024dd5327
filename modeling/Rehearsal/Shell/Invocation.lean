/-
  Rehearsal.Shell.Invocation
  ──────────────────────────────────────
  **How a shell is started.**

  Options come first and may share a hyphen.  With `-c` the next argument is the
  script and the one after it the name of the shell; otherwise commands come in as
  input, and `-s` lets operands be parameters.
-/
import Rehearsal.Shell.Machine

namespace Rehearsal.Shell

/-- The letter of an option with a long name; `a` stands for all that change nothing
here. -/
def letterOf (name : Text) : Char :=
  if name = ("errexit" : Text) then 'e' else if name = ("nounset" : Text) then 'u' else 'a'

/-- How a shell is started. -/
structure Invocation where
  name : Text
  /-- The script; without one, commands come in as input. -/
  script : Option Text := none
  params : List Text := []
  stopsOnFailure : Bool := false
  needsValues : Bool := false
  deriving DecidableEq, Repr

namespace Invocation

/-- Takes what stands behind the options; `isScript` and `isInput` tell where the
commands come from. -/
def finish? (i : Invocation) (isScript isInput : Bool) (operands : List Text) :
    Option Invocation :=
  if isScript then
    match operands with
    | [] => none
    | [script] => some { i with script := some script }
    | script :: name :: params => some { i with script := some script, name, params }
  else if isInput || operands.isEmpty then some { i with params := operands }
  else none

/-- Switches on the options of some letters. -/
def withOptions (i : Invocation) (letters : Text) : Invocation :=
  { i with
    stopsOnFailure := i.stopsOnFailure || letters.contains 'e'
    needsValues := i.needsValues || letters.contains 'u' }

/-- Takes arguments one after the other. -/
def read? (i : Invocation) (isScript isInput : Bool) : List Text → Option Invocation
  | [] => i.finish? isScript isInput []
  | ['-'] :: rest => i.finish? isScript isInput rest
  | ['-', '-'] :: rest => i.finish? isScript isInput rest
  | ['-', 'o'] :: name :: rest => read? (i.withOptions [letterOf name]) isScript isInput rest
  | ('-' :: letters) :: rest =>
      if letters.all ("abcefhilmnsuvxCEIV".toList.contains ·) then
        read? (i.withOptions letters) (isScript || letters.contains 'c')
          (isInput || letters.contains 's') rest
      else none
  | ('+' :: _) :: rest => read? i isScript isInput rest
  | operands => i.finish? isScript isInput operands

/-- The invocation of a name with arguments. -/
def ofArguments? (name : Text) (arguments : List Text) : Option Invocation :=
  read? { name } false false arguments

/-- The machine that an invocation starts with, on the channels of another one. -/
def machine (i : Invocation) (m : Machine) : Machine :=
  { m with
    name := i.name, params := i.params, stopsOnFailure := i.stopsOnFailure
    needsValues := i.needsValues
    vars := ("IFS", " \t\n") :: m.vars.filter fun v => m.exported.contains v.1
    constants := [], functions := [], hidden := [], status := 0, outputStatus := 0
    evaluator := none, line := 1, loops := 0, isTested := false }

end Invocation

end Rehearsal.Shell
