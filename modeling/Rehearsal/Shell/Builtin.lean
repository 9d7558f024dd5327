/-
  Rehearsal.Shell.Builtin
  ──────────────────────────────────────
  **Commands that run no other command.**

  Most belong to the shell itself.  A failure of a special one ends the shell,
  any other only sets the status.  A few tools are there, too, under their names
  and their paths.
-/
import Rehearsal.Shell.Invocation

namespace Rehearsal.Shell

/-! ## §1. Names and paths. -/

/-- The commands whose failure ends the shell. -/
def specialCommands : List Text :=
  [".", ":", "break", "continue", "eval", "exec", "exit", "export", "readonly", "return", "set",
    "shift", "times", "trap", "unset"]

/-- The other commands of the shell itself. -/
def ownCommands : List Text :=
  ["[", "alias", "bg", "cd", "command", "echo", "false", "fg", "getopts", "hash", "jobs", "kill",
    "local", "printf", "pwd", "read", "test", "true", "type", "ulimit", "umask", "unalias", "wait"]

/-- The tools that can be called. -/
def tools : List Text := ["cat", "seq", "sh", "sleep", "tr"]

/-- The words that are part of the language. -/
def keywords : List Text :=
  ["!", "\x7b", "\x7d", "case", "do", "done", "elif", "else", "esac", "fi", "for", "if", "in",
    "then", "until", "while"]

/-- The directories that can be counted on. -/
def directories : List Text :=
  ["/", "/bin", "/dev", "/etc", "/home", "/root", "/tmp", "/usr", "/usr/bin", "/var", ".", ".."]

/-- A path leads to one of these directories. -/
def isDirectory (path : Text) : Bool :=
  let trimmed := Text.dropEndWhile (· = '/') path
  path ≠ [] && directories.contains (if trimmed = [] then ['/'] else trimmed)

/-- A file can be made at a path. -/
def isWritable (path : Text) : Bool :=
  let parent := (path.reverse.dropWhile (· ≠ '/')).reverse
  !isDirectory path && (parent = [] || isDirectory parent)

/-- The commands of the shell itself that are tools, too. -/
def sharedTools : List Text := ["[", "echo", "false", "printf", "test", "true"]

/-- The name of the tool that a path leads to. -/
def toolAt? (path : Text) : Option Text :=
  (tools ++ sharedTools).find? fun name =>
    path = ("/bin/" : Text) ++ name || path = ("/usr/bin/" : Text) ++ name

/-- A name of a variable. -/
def isName (t : Text) : Bool := t ≠ [] && nameAt t = t

/-- The contents of a file that can be read. -/
def contents? (path : Text) : Action (Option Text) := do
  let files := (← get).files
  return if path = ("/dev/null" : Text) then some [] else files.lookup path

/-! ## §2. Messages. -/

/-- Writes an error message behind the name of a command. -/
def complainOf (command message : Text) (status : Nat) : Action Unit :=
  complain (command ++ (": " : Text) ++ message) status

/-- Writes an error message behind the name of a command and ends the shell. -/
def failIn {α : Type} (command message : Text) : Action α := do
  complainOf command message 2
  throw .exited

/-- The number that an argument is. -/
def countOf (command argument : Text) : Action Nat :=
  if argument ≠ [] && argument.all Char.isDigit then return decimal argument
  else failIn command (("Illegal number: " : Text) ++ argument)

/-- Writes a line of a tool to the standard error. -/
def complainPlainly (message : Text) (status : Nat) : Action Unit := do
  let _ ← write 2 (message ++ ['\n'])
  setStatus status

/-! ## §3. Variables and parameters. -/

/-- How many loops are left, counted from the innermost; none if there is no loop. -/
def loopsLeft (command : Text) (arguments : List Text) : Action (Option Nat) := do
  let n ← match arguments with
    | [] => pure 1
    | t :: _ => countOf command t
  if n = 0 then failIn command ("Illegal number: 0" : Text)
  let loops := (← get).loops
  return if loops = 0 then none else some (min n loops - 1)

/-- Sets the variables that `read` takes. -/
def assignFields : List Text → List Text → Action Bool
  | [], _ => return true
  | name :: names, values => do
      match ← refusal? name with
      | some message =>
          complainOf "read" message 2
          return false
      | none =>
          setVar name (values.headD [])
          assignFields names values.tail

/-- Reads a line into variables. -/
def readInto (arguments : List Text) : Action Unit := do
  let raw := arguments.contains ['-', 'r']
  let names := arguments.filter fun a => a.head? ≠ some '-'
  let (line, ended) ← takeLine 0
  let fields := cutLine (← separators) (line.length + 2) names.length (protect raw line)
  if ← assignFields names fields then setStatus (if ended then 0 else 1)

/-- A name and what stands behind its equals sign. -/
def definition (t : Text) : Text × Option Text :=
  let name := t.takeWhile (· ≠ '=')
  (name, (t.drop name.length).tail?)

/-- Sets and marks the variables of definitions. -/
def define (command : Text) (mark : Text → Action Unit) (arguments : List Text) :
    Action Unit := do
  (arguments.filter (· ≠ ['-', 'p'])).forM fun a => do
    let (name, value) := definition a
    if !isName name then failIn command (name ++ (": bad variable name" : Text))
    match value with
    | some value =>
        match ← refusal? name with
        | some message => failIn command message
        | none => setVar name value
    | none => pure ()
    mark name
  setStatus 0

/-- Makes variables local to the function at hand. -/
def makeLocal (arguments : List Text) : Action Unit := do
  if (← get).hidden.isEmpty then failIn "local" "not in a function"
  arguments.forM fun a => do
    let (name, value) := definition a
    let old ← var? name
    modify fun m =>
      match m.hidden with
      | scope :: outer => { m with hidden := ((name, old) :: scope) :: outer }
      | [] => m
    match value with
    | some value => setVar name value
    | none => pure ()
  setStatus 0

/-- Forgets variables and functions. -/
def forget (arguments : List Text) : Action Unit := do
  let names := arguments.filter fun a => a ≠ ['-', 'v'] && a ≠ ['-', 'f']
  let ofFunctions := arguments.contains ['-', 'f']
  names.forM fun name => do
    if ofFunctions then
      modify fun m => { m with functions := m.functions.filter fun f => f.1 ≠ name }
    else
      if !isName name then failIn "unset" (name ++ (": bad variable name" : Text))
      match ← refusal? name with
      | some message => failIn "unset" message
      | none =>
          if (← var? name).isSome then unsetVar name
          else modify fun m => { m with functions := m.functions.filter fun f => f.1 ≠ name }
  setStatus 0

/-- Switches an option of the shell. -/
def switch (on : Bool) (letter : Char) : Action Unit :=
  if letter = 'e' then modify fun m => { m with stopsOnFailure := on }
  else if letter = 'u' then modify fun m => { m with needsValues := on }
  else if "abfhimnvxCEIV".toList.contains letter then pure ()
  else failIn "set" (("Illegal option " : Text) ++ [if on then '-' else '+', letter])

/-- Switches options and sets the positional parameters. -/
def setOptions : List Text → Action Unit
  | [] => pure ()
  | ['-', '-'] :: params => modify fun m => { m with params := params }
  | ['-', 'o'] :: name :: rest => do
      switch true (letterOf name)
      setOptions rest
  | ['+', 'o'] :: name :: rest => do
      switch false (letterOf name)
      setOptions rest
  | ('-' :: c :: letters) :: rest => do
      (c :: letters).forM (switch true)
      setOptions rest
  | ('+' :: c :: letters) :: rest => do
      (c :: letters).forM (switch false)
      setOptions rest
  | params => modify fun m => { m with params := params }

/-- Drops positional parameters. -/
def shift (arguments : List Text) : Action Unit := do
  let n ← match arguments with
    | [] => pure 1
    | t :: _ => countOf "shift" t
  if n > (← get).params.length then failIn "shift" "can't shift that many"
  modify fun m => { m with params := m.params.drop n }
  setStatus 0

/-- Sets the status that a command is told, if it is told one. -/
def setStatusFrom (command : Text) : List Text → Action Unit
  | [] => pure ()
  | t :: _ => do setStatus ((← countOf command t) % 256)

/-! ## §4. Input and output. -/

/-- Prints a format. -/
def printFormat (arguments : List Text) : Action Unit := do
  let arguments := if arguments.head? = some ['-', '-'] then arguments.tail else arguments
  match arguments with
  | [] => complainOf "printf" "usage: printf format [arg ...]" 2
  | format :: rest =>
      if format.head? = some '-' && format.length > 1 then
        complainOf "printf" (("Illegal option " : Text) ++ format.take 2) 2
      else
        let printed := printf format rest
        -- The messages come first, because the text is held back up to the end.
        printed.complaints.forM fun message => complainOf "printf" message 1
        match printed.invalid with
        | some conversion =>
            complainOf "printf" (conversion ++ (": invalid directive" : Text)) 2
            let _ ← write 1 printed.text
        | none =>
            print "printf" printed.text
            if !printed.complaints.isEmpty then setStatus 1

/-- Checks a condition. -/
def checkCondition (command : Text) (arguments : List Text) : Action Unit := do
  let files := (← get).files
  let paths : Condition.Paths :=
    { isFile := fun path => (files.lookup path).isSome || path = ("/dev/null" : Text)
      isDirectory := isDirectory }
  match Condition.check paths arguments with
  | .ok true => setStatus 0
  | .ok false => setStatus 1
  | .error message => complainOf command message 2

/-- Copies files, or the standard input, to the standard output. -/
def copyFiles (arguments : List Text) : Action Unit := do
  let copyInput : Action Unit := do
    let (t, more) ← takeAll 0
    print "cat" t
    if more then throw .waiting
  setStatus 0
  match arguments.filter (· ≠ ['-', 'u']) with
  | [] => copyInput
  | names =>
      let results ← names.mapM fun name => do
        if name = ['-'] then
          copyInput
          return true
        else
          match ← contents? name with
          | some t =>
              print "cat" t
              return true
          | none =>
              let trouble : Text :=
                if isDirectory name then "Is a directory" else "No such file or directory"
              complainPlainly (("cat: " : Text) ++ name ++ (": " : Text) ++ trouble) 1
              return false
      setStatus (if results.all id then 0 else 1)

/-- Replaces characters of the standard input. -/
def exchangeChars (arguments : List Text) : Action Unit := do
  let (t, more) ← takeAll 0
  if more then throw .waiting
  match trText? arguments t with
  | some t => print "tr" t
  | none => complainPlainly "tr: missing operand\nTry 'tr --help' for more information." 1

/-- Prints numbers. -/
def countUp (arguments : List Text) : Action Unit :=
  match seqText? arguments with
  | some t => print "seq" t
  | none => complainPlainly "seq: missing operand\nTry 'seq --help' for more information." 1

/-- Changes the directory, which shows only if there is none. -/
def changeDirectory (arguments : List Text) : Action Unit :=
  match arguments with
  | [] => setStatus 0
  | path :: _ =>
      if isDirectory path then setStatus 0
      else complainOf "cd" (("can't cd to " : Text) ++ path) 2

/-! ## §5. Looking commands up. -/

/-- What a name stands for, as `type` tells it and as `command -v` does. -/
def meaning? (name : Text) : Action (Option (Text × Text)) := do
  let isFunction := ((← get).functions.lookup name).isSome
  let described (kind : Text) : Option (Text × Text) :=
    some (name ++ (" is a " : Text) ++ kind, name)
  return if keywords.contains name then described "shell keyword"
    else if isFunction then described "shell function"
    else if specialCommands.contains name then described "special shell builtin"
    else if ownCommands.contains name then described "shell builtin"
    else if tools.contains name then
      let path := ("/usr/bin/" : Text) ++ name
      some (name ++ (" is " : Text) ++ path, path)
    else if (toolAt? name).isSome then some (name ++ (" is " : Text) ++ name, name)
    else none

/-- Tells what names stand for. -/
def describe (names : List Text) : Action Unit := do
  let results ← names.mapM fun name => do
    match ← meaning? name with
    | some (description, _) =>
        print "type" (description ++ ['\n'])
        return true
    | none =>
        print "type" (name ++ (": not found\n" : Text))
        return false
  setStatus (if results.all id then 0 else 127)

/-- Tells how a name is called. -/
def resolve (names : List Text) : Action Unit := do
  match names with
  | [] => setStatus 0
  | name :: _ =>
      match ← meaning? name with
      | some (_, call) => print "command" (call ++ ['\n'])
      | none => setStatus 127

/-- Tells that there is no such command. -/
def missing (name : Text) : Action Unit :=
  let isForbidden := name = [] || isDirectory name || name = ("/etc/passwd" : Text)
  if isForbidden then
    complainHere (name ++ (": Permission denied" : Text)) (if name.contains '/' then 126 else 127)
  else complainHere (name ++ (": not found" : Text)) 127

/-- The commands that run no other command. -/
def plainCommand? (name : Text) (arguments : List Text) : Option (Action Unit) :=
  match String.ofList name with
  | ":" | "true" | "sleep" | "trap" | "wait" | "umask" | "alias" | "times" | "hash" | "jobs"
  | "ulimit" => some (setStatus 0)
  | "false" => some (setStatus 1)
  | "cd" => some (changeDirectory arguments)
  | "echo" => some (print "echo" (echoText arguments))
  | "printf" => some (printFormat arguments)
  | "test" => some (checkCondition name arguments)
  | "[" =>
      some (if arguments.getLast? = some [']'] then checkCondition name arguments.dropLast
        else complainOf "[" "missing ]" 2)
  | "read" => some (readInto arguments)
  | "export" =>
      let mark (v : Text) : Action Unit := modify fun m => { m with exported := v :: m.exported }
      some (define name mark arguments)
  | "readonly" =>
      let mark (v : Text) : Action Unit := modify fun m => { m with constants := v :: m.constants }
      some (define name mark arguments)
  | "local" => some (makeLocal arguments)
  | "unset" => some (forget arguments)
  | "shift" => some (shift arguments)
  | "set" => some do
      setOptions arguments
      setStatus 0
  | "exit" => some do
      setStatusFrom "exit" arguments
      throw .exited
  | "return" => some do
      setStatusFrom "return" arguments
      throw .returned
  | "break" => some do
      match ← loopsLeft "break" arguments with
      | some n =>
          setStatus 0
          throw (.broken n)
      | none => setStatus 0
  | "continue" => some do
      match ← loopsLeft "continue" arguments with
      | some n =>
          setStatus 0
          throw (.continued n)
      | none => setStatus 0
  | "." => some do
      match arguments with
      | [] => setStatus 0
      | path :: _ => failIn "." (("cannot open " : Text) ++ path ++ (": No such file" : Text))
  | "type" => some (describe arguments)
  | "cat" => some (copyFiles arguments)
  | "tr" => some (exchangeChars arguments)
  | "seq" => some (countUp arguments)
  | _ => none

end Rehearsal.Shell
