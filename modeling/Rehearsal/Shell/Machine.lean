/-
  Rehearsal.Shell.Machine
  ──────────────────────────────────────
  **The state of a shell, and the actions on it.**

  Input comes in piece by piece.  An action that needs more than there is halts
  as `waiting`; what was printed before that stays printed.
-/
import Rehearsal.Shell.Condition
import Rehearsal.Shell.Format
import Rehearsal.Shell.Glob
import Rehearsal.Shell.Reader

namespace Rehearsal.Shell

/-! ## §1. The machine. -/

/-- What a descriptor refers to. -/
inductive Channel where
  /-- The input of the process. -/
  | input
  /-- The output of the process. -/
  | output
  /-- Takes everything, gives nothing. -/
  | null
  /-- A text that is read and written inside the machine. -/
  | buffer (number : Nat)
  /-- A file that is written. -/
  | file (name : Text)
  deriving DecidableEq, Repr

/-- The state of a shell. -/
structure Machine where
  /-- The name that error messages start with. -/
  name : Text := "sh"
  /-- The input that was not read yet. -/
  input : Text := []
  /-- The line at the front of the input. -/
  nextLine : Nat := 1
  /-- The line of the command at hand. -/
  line : Nat := 1
  /-- The command that evaluates the text at hand, if one does. -/
  evaluator : Option Text := none
  /-- What was printed, the last piece first. -/
  printed : List Text := []
  channels : List (Nat × Channel) := [(0, .input), (1, .output), (2, .null)]
  buffers : Array Text := #[]
  files : List (Text × Text) := []
  vars : List (Text × Text) := [("IFS", " \t\n")]
  /-- The variables that a shell inside of this one has, too. -/
  exported : List Text := []
  /-- The variables that cannot be set. -/
  constants : List Text := []
  /-- The positional parameters. -/
  params : List Text := []
  functions : List (Text × Command) := []
  /-- The values that the local variables hide, by function call. -/
  hidden : List (List (Text × Option Text)) := []
  /-- The exit status of the last command. -/
  status : Nat := 0
  /-- The exit status of the last command whose output became part of a word. -/
  outputStatus : Nat := 0
  /-- How many loops are around the command at hand. -/
  loops : Nat := 0
  /-- A command that fails ends the shell. -/
  stopsOnFailure : Bool := false
  /-- The command at hand may fail, because its status is asked for. -/
  isTested : Bool := false
  /-- A parameter without a value ends the shell. -/
  needsValues : Bool := false

/-- Why a command does not go on. -/
inductive Halt where
  /-- It needs more input. -/
  | waiting
  | exited
  /-- So many loops are left. -/
  | broken (loops : Nat)
  /-- So many loops are left but for the last, which goes on. -/
  | continued (loops : Nat)
  | returned
  deriving DecidableEq, Repr

/-- Works on a machine. -/
abbrev Action := ExceptT Halt (StateM Machine)

/-! ## §2. Channels. -/

/-- Sets the exit status. -/
def setStatus (n : Nat) : Action Unit := modify fun m => { m with status := n }

/-- The channel of a descriptor. -/
def channel? (descriptor : Nat) : Action (Option Channel) := do
  return (← get).channels.lookup descriptor

/-- Redirects a descriptor, or closes it. -/
def setChannel (descriptor : Nat) (c : Option Channel) : Action Unit :=
  modify fun m =>
    let others := m.channels.filter fun e => e.1 ≠ descriptor
    { m with channels := c.toList.map (fun c => (descriptor, c)) ++ others }

/-- A new buffer. -/
def newBuffer (t : Text) : Action Channel := do
  let number := (← get).buffers.size
  modify fun m => { m with buffers := m.buffers.push t }
  return .buffer number

/-- Writes to a descriptor; `false` if it is closed. -/
def write (descriptor : Nat) (t : Text) : Action Bool := do
  match ← channel? descriptor with
  | some .output =>
      modify fun m => { m with printed := t :: m.printed }
      return true
  | some .null => return true
  | some (.buffer n) =>
      modify fun m => { m with buffers := m.buffers.modify n (· ++ t) }
      return true
  | some (.file name) =>
      modify fun m =>
        let old := (m.files.lookup name).getD []
        { m with files := (name, old ++ t) :: m.files.filter fun f => f.1 ≠ name }
      return true
  | _ => return false

/-- Writes an error message behind the name of the shell and the line. -/
def complain (message : Text) (status : Nat) : Action Unit := do
  let m ← get
  let place := m.name ++ (": " : Text) ++ Text.ofNat m.line ++ (": " : Text)
  let _ ← write 2 (place ++ message ++ ['\n'])
  setStatus status

/-- Writes an error message of the command that evaluates the text at hand. -/
def complainHere (message : Text) (status : Nat) : Action Unit := do
  match (← get).evaluator with
  | some name => complain (name ++ (": " : Text) ++ message) status
  | none => complain message status

/-- Writes an error message and ends the shell. -/
def giveUp {α : Type} (message : Text) : Action α := do
  complainHere message 2
  throw .exited

/-- Writes the output of a command and sets the status. -/
def print (command t : Text) : Action Unit := do
  let ok ← if t = [] then pure true else write 1 t
  if ok then setStatus 0
  else complain (command ++ (": " : Text) ++ command ++ (": I/O error" : Text)) 1

/-- Takes everything from a descriptor; `true` if more may come. -/
def takeAll (descriptor : Nat) : Action (Text × Bool) := do
  match ← channel? descriptor with
  | some .input =>
      let t := (← get).input
      modify fun m => { m with input := [] }
      return (t, true)
  | some (.buffer n) =>
      let t := (← get).buffers.getD n []
      modify fun m => { m with buffers := m.buffers.setIfInBounds n [] }
      return (t, false)
  | _ => return ([], false)

/-- Takes a line from a descriptor, without its newline; `false` if it was not
ended. -/
def takeLine (descriptor : Nat) : Action (Text × Bool) := do
  let cut (t : Text) : Text × Option Text :=
    let line := t.takeWhile (· ≠ '\n')
    match t.drop line.length with
    | _ :: rest => (line, some rest)
    | [] => (line, none)
  match ← channel? descriptor with
  | some .input =>
      match cut (← get).input with
      | (line, some rest) =>
          modify fun m => { m with input := rest }
          return (line, true)
      | (_, none) => throw .waiting
  | some (.buffer n) =>
      let (line, rest) := cut ((← get).buffers.getD n [])
      modify fun m => { m with buffers := m.buffers.setIfInBounds n (rest.getD []) }
      return (line, rest.isSome)
  | _ => return ([], false)

/-! ## §3. Variables. -/

/-- Sets a variable. -/
def setVar (name value : Text) : Action Unit :=
  modify fun m => { m with vars := (name, value) :: m.vars.filter fun v => v.1 ≠ name }

/-- Unsets a variable. -/
def unsetVar (name : Text) : Action Unit :=
  modify fun m => { m with vars := m.vars.filter fun v => v.1 ≠ name }

/-- Sets or unsets a variable. -/
def restoreVar (name : Text) : Option Text → Action Unit
  | some value => setVar name value
  | none => unsetVar name

/-- What is wrong with setting a variable, if anything is. -/
def refusal? (name : Text) : Action (Option Text) := do
  let isConstant := (← get).constants.contains name
  return if isConstant then some (name ++ (": is read only" : Text)) else none

/-- Sets a variable; one that cannot be set ends the shell. -/
def assignVar (name value : Text) : Action Unit := do
  match ← refusal? name with
  | some message => giveUp message
  | none => setVar name value

/-- The value of a variable. -/
def var? (name : Text) : Action (Option Text) := do return (← get).vars.lookup name

/-- The characters between fields. -/
def separators : Action Text := do return (← var? "IFS").getD " \t\n"

/-- Joins texts with the first of the characters between fields. -/
def joinFields (ifs : Text) : List Text → Text
  | [] => []
  | [w] => w
  | w :: v :: rest => w ++ ifs.take 1 ++ joinFields ifs (v :: rest)

/-- The value of a parameter. -/
def param? (name : Text) : Action (Option Text) := do
  let m ← get
  match name with
  | ['#'] => return some (Text.ofNat m.params.length)
  | ['?'] => return some (Text.ofNat m.status)
  | ['$'] => return some "1"
  | ['!'] | ['-'] => return some []
  | ['@'] | ['*'] =>
      let ifs ← separators
      return if m.params.isEmpty then none else some (joinFields ifs m.params)
  | ['0'] => return some m.name
  | name =>
      if name.all Char.isDigit then return m.params[decimal name - 1]?
      else if name = ("LINENO" : Text) then return some (Text.ofNat m.line)
      else return m.vars.lookup name

/-! ## §4. Fields. -/

/-- A part of an expanded word. -/
inductive Piece where
  /-- Text that stays as it is. -/
  | fixed (quoted : Bool) (text : Text)
  /-- Text that is cut at separators. -/
  | loose (text : Text)
  /-- The end of a field. -/
  | next
  deriving Repr

/-- Fields in the making: the finished ones, the one at hand, and whether a blank
separator came last. -/
structure Fields where
  done : List Text := []
  current : Option Text := none
  blank : Bool := false

namespace Fields

/-- Adds text to the field at hand. -/
def extend (f : Fields) (t : Text) : Fields :=
  { f with current := some (f.current.getD [] ++ t), blank := false }

/-- Ends the field at hand, if there is one. -/
def finish (f : Fields) : Fields :=
  { f with done := f.done ++ f.current.toList, current := none }

/-- Adds one character of loose text. -/
def addLoose (ifs : Text) (f : Fields) (c : Char) : Fields :=
  if !ifs.contains c then f.extend [c]
  else if c = ' ' || c = '\t' || c = '\n' then
    { f.finish with blank := f.current.isSome || f.blank }
  else if f.current.isNone && f.blank then { f with blank := false }
  else { done := f.done ++ [f.current.getD []] }

/-- Adds a piece. -/
def add (ifs : Text) (f : Fields) : Piece → Fields
  | .fixed _ t => f.extend t
  | .loose t => t.foldl (addLoose ifs) f
  | .next => { f.finish with blank := false }

/-- The fields that pieces make. -/
def ofPieces (ifs : Text) (ps : List Piece) : List Text := (ps.foldl (add ifs) {}).finish.done

end Fields

/-- The text of a piece. -/
def Piece.text : Piece → Text
  | .fixed _ t => t
  | .loose t => t
  | .next => [' ']

/-- The characters of a piece as a pattern. -/
def Piece.glob : Piece → Glob
  | .fixed quoted t => t.map fun c => (c, quoted)
  | .loose t => t.map fun c => (c, false)
  | .next => [(' ', false)]

/-- The characters of a line that is read, each with whether a backslash protects
it; in a `raw` line a backslash is a character. -/
def protect (raw : Bool) : Text → List (Char × Bool)
  | [] => []
  | '\\' :: d :: t =>
      if raw then ('\\', false) :: protect raw (d :: t) else (d, true) :: protect raw t
  | c :: t => (c, false) :: protect raw t

/-- Cuts a line into at most `count` fields; the last one takes the rest. -/
def cutLine (ifs : Text) (fuel count : Nat) (t : List (Char × Bool)) : List Text :=
  match fuel with
  | 0 => []
  | fuel + 1 =>
      let isBlank (c : Char × Bool) : Bool :=
        !c.2 && ifs.contains c.1 && (c.1 = ' ' || c.1 = '\t' || c.1 = '\n')
      let isSeparator (c : Char × Bool) : Bool := !c.2 && ifs.contains c.1
      let t := t.dropWhile isBlank
      if count ≤ 1 then [((t.reverse.dropWhile isBlank).reverse).map (·.1)]
      else if t = [] then []
      else
        let field := t.takeWhile (!isSeparator ·)
        let rest := (t.drop field.length).dropWhile isBlank
        let rest := match rest with
          | c :: more => if isSeparator c then more else rest
          | [] => []
        field.map (·.1) :: cutLine ifs fuel (count - 1) rest

/-! ## §5. Simple tools. -/

/-- The characters of a set as `tr` takes it. -/
def trSet (fuel : Nat) (t : Text) : Text :=
  match fuel, t with
  | 0, _ => []
  | _, [] => []
  | fuel + 1, t =>
      let range (lo hi : Char) : Text :=
        (List.range (hi.toNat + 1 - lo.toNat)).map fun i => Char.ofNat (lo.toNat + i)
      let classes : List (String × Text) :=
        [ ("[:lower:]", range 'a' 'z'), ("[:upper:]", range 'A' 'Z')
        , ("[:digit:]", range '0' '9'), ("[:alpha:]", range 'A' 'Z' ++ range 'a' 'z')
        , ("[:space:]", range '\t' '\r' ++ [' ']) ]
      match classes.find? fun c => c.1.toList.isPrefixOf t with
      | some (name, cs) => cs ++ trSet fuel (t.drop name.length)
      | none =>
          match t with
          | '\\' :: rest =>
              let (c, rest) := escape rest
              c :: trSet fuel rest
          | lo :: '-' :: hi :: rest => range lo hi ++ trSet fuel rest
          | c :: rest => c :: trSet fuel rest
          | [] => []

/-- What a character of one set is in the other one. -/
def trChar (c : Char) : Text → Text → Char
  | a :: rest, b :: more => if a = c then b else trChar c rest (if more = [] then [b] else more)
  | _, _ => c

/-- Leaves one of several equal neighbours in a set. -/
def squeeze (set : Text) : Text → Text
  | [] => []
  | [c] => [c]
  | c :: d :: t =>
      if c = d && set.contains c then squeeze set (d :: t) else c :: squeeze set (d :: t)

/-- What `tr` makes of a text; `none` for arguments it does not take. -/
def trText? (arguments : List Text) (t : Text) : Option Text :=
  let set (s : Text) : Text := trSet (s.length + 1) s
  match arguments with
  | [['-', 'd'], s] => some (t.filter fun c => !(set s).contains c)
  | [['-', 's'], s] => some (squeeze (set s) t)
  | [s, r] => some (t.map fun c => trChar c (set s) (set r))
  | _ => none

/-- The numbers that `seq` counts: up to the last one, from the first one, and in
which steps; `none` for arguments it does not take. -/
def seqText? (arguments : List Text) : Option Text := do
  let numbers ← arguments.mapM Condition.integer?
  let (first, step, last) ← match numbers with
    | [last] => some ((1, 1, last) : Int × Int × Int)
    | [first, last] => some (first, 1, last)
    | [first, step, last] => if step = 0 then none else some (first, step, last)
    | _ => none
  let count := if (last - first) * step < 0 then 0 else ((last - first).tdiv step + 1).toNat
  let line (i : Nat) : Text := Arithmetic.shown (first + step * i) ++ ['\n']
  return (List.range count).flatMap line

end Rehearsal.Shell
