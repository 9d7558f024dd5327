/-
  Rehearsal.Shell.Run
  ──────────────────────────────────────
  **Running commands.**

  Words are expanded to fields, redirections are made, and then a function, a
  command of the shell itself or one of a few tools is called.  A subshell works
  on copies of everything but the input, the output and the files.
-/
import Rehearsal.Shell.Builtin
import Rehearsal.Shell.Invocation
import Rehearsal.Shell.Scope

namespace Rehearsal.Shell

/-! ## §1. Expansion and execution. -/

/-- Drops all newlines at the end. -/
def dropNewlines (t : Text) : Text := Text.dropEndWhile (· = '\n') t

mutual

/-- The pieces of a word. -/
def pieces (fuel : Nat) (w : Word) : Action (List Piece) :=
  match fuel with
  | 0 => throw .exited
  | fuel + 1 => do
      -- All parameters in quotes are no field at all if there are none.
      match w, (← get).params with
      | [.quoted [], .param true ['@'] .value _ _], [] => return []
      | _, _ => return (← w.mapM (partPieces fuel)).flatten

/-- The pieces of a part of a word. -/
def partPieces (fuel : Nat) (p : Part) : Action (List Piece) :=
  match fuel with
  | 0 => throw .exited
  | fuel + 1 => do
      let text (inQuotes : Bool) (t : Text) : Piece := if inQuotes then .fixed true t else .loose t
      match p with
      | .plain t => return [.fixed false t]
      | .quoted t => return [.fixed true t]
      | .arithmetic inQuotes e =>
          let expression ← scalar fuel e
          match Arithmetic.evaluate? (← get).vars expression with
          | some (n, vars) =>
              modify fun m => { m with vars := vars }
              return [text inQuotes (Arithmetic.shown n)]
          | none => giveUp (("arithmetic expression: " : Text) ++ expression)
      | .output inQuotes line script =>
          let channel ← newBuffer []
          let status := (← get).status
          inSubshell do
            setChannel 1 (some channel)
            setStatus 0
            runScript fuel line (script ++ ['\n'])
          modify fun m => { m with outputStatus := m.status, status := status }
          match channel with
          | .buffer n => return [text inQuotes (dropNewlines ((← get).buffers.getD n []))]
          | _ => return []
      | .param inQuotes name use orEmpty word =>
          let value ← param? name
          let given := value.isSome && !(orEmpty && value = some [])
          let isList := name = ['@'] || name = ['*']
          let isDemanded := (← get).needsValues && value.isNone && !isList
          if isDemanded && !use.copesWithout then
            giveUp (name ++ (": parameter not set" : Text))
          match use with
          | .value =>
              let params := (← get).params
              if name = ['@'] && inQuotes then
                return (params.map (Piece.fixed true)).intersperse .next
              else if (name = ['@'] || name = ['*']) && !inQuotes then
                return (params.map Piece.loose).intersperse .next
              else return [text inQuotes (value.getD [])]
          | .length => return [text inQuotes (Text.ofNat (value.getD []).length)]
          | .default => if given then return [text inQuotes (value.getD [])] else pieces fuel word
          | .alternative => if given then pieces fuel word else return [text inQuotes []]
          | .assign =>
              if given then return [text inQuotes (value.getD [])]
              else
                let t ← scalar fuel word
                assignVar name t
                return [text inQuotes t]
          | .demand =>
              if given then return [text inQuotes (value.getD [])]
              else
                let message ← scalar fuel word
                let message := if message = [] then ("parameter not set" : Text) else message
                giveUp (name ++ (": " : Text) ++ message)
          | .dropStart longest =>
              return [text inQuotes ((← glob fuel word).dropStart longest (value.getD []))]
          | .dropEnd longest =>
              return [text inQuotes ((← glob fuel word).dropEnd longest (value.getD []))]

/-- The text of a word that is not cut into fields. -/
def scalar (fuel : Nat) (w : Word) : Action Text :=
  match fuel with
  | 0 => throw .exited
  | fuel + 1 => do return ((← pieces fuel w).map Piece.text).flatten

/-- The pattern of a word. -/
def glob (fuel : Nat) (w : Word) : Action Glob :=
  match fuel with
  | 0 => throw .exited
  | fuel + 1 => do return ((← pieces fuel w).map Piece.glob).flatten

/-- The fields of several words. -/
def fields (fuel : Nat) (ws : List Word) : Action (List Text) :=
  match fuel with
  | 0 => throw .exited
  | fuel + 1 => do
      let expanded ← ws.mapM (pieces fuel)
      let ifs ← separators
      return expanded.flatMap (Fields.ofPieces ifs)

/-- Makes a redirection; `false` if it cannot be made. -/
def redirect (fuel : Nat) (r : Redirect) : Action Bool :=
  match fuel with
  | 0 => throw .exited
  | fuel + 1 => do
      let target ← scalar fuel r.word
      let set (c : Channel) : Action Bool := do
        setChannel r.descriptor (some c)
        return true
      let refuse (message : Text) : Action Bool := do
        complainHere message 2
        return false
      let make (isNew : Bool) : Action Bool := do
        if target = ("/dev/null" : Text) then set .null
        else if isDirectory target then
          refuse (("cannot create " : Text) ++ target ++ (": Is a directory" : Text))
        else if !isWritable target then
          refuse (("cannot create " : Text) ++ target ++ (": Directory nonexistent" : Text))
        else
          let files := (← get).files
          let old := if isNew then [] else (files.lookup target).getD []
          modify fun m =>
            { m with files := (target, old) :: m.files.filter fun f => f.1 ≠ target }
          set (.file target)
      match r.kind with
      | .here => set (← newBuffer target)
      | .duplicate =>
          if target = ['-'] then
            setChannel r.descriptor none
            return true
          else
            match ← channel? (decimal target) with
            | some c => set c
            | none => refuse (target ++ (": Bad file descriptor" : Text))
      | .input =>
          if target = ("/dev/null" : Text) then set .null
          else
            match (← get).files.lookup target with
            | some t => set (← newBuffer t)
            | none => refuse (("cannot open " : Text) ++ target ++ (": No such file" : Text))
      | .output => make true
      | .append => make false

/-- Makes redirections up to the first one that cannot be made. -/
def redirectAll (fuel : Nat) (rs : List Redirect) : Action Bool :=
  match fuel, rs with
  | 0, _ => throw .exited
  | _, [] => return true
  | fuel + 1, r :: rest => do
      if ← redirect fuel r then redirectAll fuel rest else return false

/-- Calls a command of the shell or a tool. -/
def callPlain (fuel : Nat) (name : Text) (arguments : List Text) : Action Unit :=
  match fuel with
  | 0 => throw .exited
  | fuel + 1 => do
      match plainCommand? name arguments with
      | some act => act
      | none =>
          if name = ("eval" : Text) then
            let evaluator := (← get).evaluator
            modify fun m => { m with evaluator := some name }
            setStatus 0
            runScript fuel 1 (joinWords arguments ++ ['\n'])
            modify fun m => { m with evaluator := evaluator }
          else if name = ("command" : Text) then
            match arguments with
            | [] => setStatus 0
            | ['-', 'v'] :: names => resolve names
            | ['-', 'V'] :: names => describe (names.take 1)
            | name :: rest => callPlain fuel name rest
          else if name = ("sh" : Text) then
            match Invocation.ofArguments? name arguments with
            | some i => runShell fuel i
            | none => setStatus 2
          else
            match toolAt? name with
            | some tool => callPlain fuel tool arguments
            | none => missing name

/-- Runs a shell inside of the shell. -/
def runShell (fuel : Nat) (i : Invocation) : Action Unit :=
  match fuel with
  | 0 => throw .exited
  | fuel + 1 => inSubshell do
      modify i.machine
      match i.script with
      | some script => runScript fuel 1 (script ++ ['\n'])
      | none =>
          if (← channel? 0) = some .input then
            modify fun m => { m with nextLine := 1 }
            runInput fuel
          else
            let (script, _) ← takeAll 0
            runScript fuel 1 (if script.getLast? = some '\n' then script else script ++ ['\n'])

/-- Calls a function, a command of the shell or a tool. -/
def call (fuel : Nat) (name : Text) (arguments : List Text) : Action Unit :=
  match fuel with
  | 0 => throw .exited
  | fuel + 1 => do
      match (← get).functions.lookup name with
      | some body => inCall arguments (run fuel body)
      | none => callPlain fuel name arguments

/-- Expands and makes assignments. -/
def assignAll (fuel : Nat) (assignments : List (Text × Word)) : Action Unit :=
  match fuel, assignments with
  | 0, _ => throw .exited
  | _, [] => pure ()
  | fuel + 1, (name, w) :: rest => do
      assignVar name (← scalar fuel w)
      assignAll fuel rest

/-- Runs a simple command. -/
def runSimple (fuel : Nat) (line : Nat) (assignments : List (Text × Word)) (words : List Word)
    (redirects : List Redirect) : Action Unit :=
  match fuel with
  | 0 => throw .exited
  | fuel + 1 => do
      modify fun m => { m with line := line, outputStatus := 0 }
      -- The words are expanded before the assignments take effect.
      match ← fields fuel words with
      | [] =>
          keepingChannels do
            if ← redirectAll fuel redirects then
              assignAll fuel assignments
              setStatus (← get).outputStatus
      | name :: rest =>
          let isFunction := ((← get).functions.lookup name).isSome
          let isSpecial := !isFunction && specialCommands.contains name
          if isSpecial && name = ("exec" : Text) then
            if ← redirectAll fuel redirects then
              assignAll fuel assignments
              match rest with
              | [] => setStatus 0
              | name :: rest =>
                  -- The command takes the place of the shell.
                  let isTool := (tools ++ sharedTools).contains name
                  match if isTool then some name else toolAt? name with
                  | some tool => callPlain fuel tool rest
                  | none => complainOf "exec" (name ++ (": not found" : Text)) 127
                  throw .exited
            else throw .exited
          else
            keepingChannels do
              if ← redirectAll fuel redirects then
                if isSpecial then
                  assignAll fuel assignments
                  callPlain fuel name rest
                else
                  let values ← assignments.mapM fun (name, w) => do
                    return (name, ← scalar fuel w)
                  withVars values (call fuel name rest)
              else if isSpecial then throw .exited

/-- Runs the commands of a pipeline, each with the output of the one before as its
input. -/
def runStages (fuel : Nat) (source : Option Channel) (cs : List Command) : Action Unit :=
  match fuel, cs with
  | 0, _ => throw .exited
  | _, [] => pure ()
  | fuel + 1, [c] => inSubshell do
      match source with
      | some s => setChannel 0 (some s)
      | none => pure ()
      run fuel c
  | fuel + 1, c :: rest => do
      let sink ← newBuffer []
      inSubshell do
        match source with
        | some s => setChannel 0 (some s)
        | none => pure ()
        setChannel 1 (some sink)
        run fuel c
      runStages fuel (some sink) rest

/-- Runs a loop as long as its condition asks for. -/
def runLoop (fuel : Nat) (negated : Bool) (condition body : Command) (status : Nat) :
    Action Unit :=
  match fuel with
  | 0 => throw .exited
  | fuel + 1 => do
      inTest (run fuel condition)
      if ((← get).status = 0) == negated then setStatus status
      else if ← loopRound (run fuel body) then
        runLoop fuel negated condition body (← get).status
      else setStatus 0

/-- Runs a loop body for every value of a variable. -/
def runEach (fuel : Nat) (name : Text) (values : List Text) (body : Command) : Action Unit :=
  match fuel, values with
  | 0, _ => throw .exited
  | _, [] => pure ()
  | fuel + 1, value :: rest => do
      assignVar name value
      if ← loopRound (run fuel body) then runEach fuel name rest body

/-- Runs the first case with a pattern that matches. -/
def runCases (fuel : Nat) (subject : Text) (cs : List (List Word × Command)) : Action Unit :=
  match fuel, cs with
  | 0, _ => throw .exited
  | _, [] => setStatus 0
  | fuel + 1, (patterns, body) :: rest => do
      let globs ← patterns.mapM (glob fuel)
      if globs.any (·.isMatch subject) then
        setStatus 0
        run fuel body
      else runCases fuel subject rest

/-- Runs a command. -/
def run (fuel : Nat) (c : Command) : Action Unit :=
  match fuel with
  | 0 => throw .exited
  | fuel + 1 => do
      match c with
      | .simple line assignments words redirects =>
          runSimple fuel line assignments words redirects
          checkFailure
      | .pipeline negated cs =>
          let stages : Action Unit := match cs with
            | [c] => run fuel c
            | cs => runStages fuel none cs
          if negated then
            inTest stages
            setStatus (if (← get).status = 0 then 1 else 0)
          else
            stages
            checkFailure
      | .both first second =>
          inTest (run fuel first)
          if (← get).status = 0 then run fuel second
      | .either first second =>
          inTest (run fuel first)
          if (← get).status ≠ 0 then run fuel second
      | .sequence cs => runAll fuel cs
      | .group body redirects =>
          keepingChannels do
            if ← redirectAll fuel redirects then run fuel body
          checkFailure
      | .subshell body =>
          inSubshell (run fuel body)
          checkFailure
      | .branch condition body otherwise =>
          inTest (run fuel condition)
          if (← get).status = 0 then run fuel body
          else
            setStatus 0
            run fuel otherwise
      | .loop negated condition body => inLoop (runLoop fuel negated condition body 0)
      | .each name words body =>
          let values ← match words with
            | some ws => fields fuel ws
            | none => pure (← get).params
          setStatus 0
          inLoop (runEach fuel name values body)
      | .select word cs => runCases fuel (← scalar fuel word) cs
      | .define name body =>
          modify fun m =>
            { m with functions := (name, body) :: m.functions.filter fun f => f.1 ≠ name }
          setStatus 0

/-- Runs commands one after the other. -/
def runAll (fuel : Nat) (cs : List Command) : Action Unit :=
  match fuel, cs with
  | 0, _ => throw .exited
  | _, [] => pure ()
  | fuel + 1, c :: rest => do
      run fuel c
      runAll fuel rest

/-- Runs the lines of a script that starts on the given line. -/
def runScript (fuel line : Nat) (t : Text) : Action Unit :=
  match fuel with
  | 0 => throw .exited
  | fuel + 1 => do
      if t = [] then pure ()
      else
        match readLine line t with
        | .ok (c, rest, next) =>
            run fuel c
            runScript fuel next rest
        | .error _ => giveUp "Syntax error"

/-- Runs the commands that come in as input, one line after the other. -/
def runInput (fuel : Nat) : Action Unit :=
  match fuel with
  | 0 => throw .exited
  | fuel + 1 => do
      -- A shell that closed or replaced its own input has no more commands.
      if (← channel? 0) ≠ some .input then throw .exited
      let m ← get
      match readLine m.nextLine m.input with
      | .error .incomplete => throw .waiting
      | .error .malformed => giveUp "Syntax error"
      | .ok (c, rest, next) =>
          modify fun m => { m with input := rest, nextLine := next }
          run fuel c
          runInput fuel

end

/-! ## §2. Whole runs. -/

/-- How many steps may be nested or repeated. -/
def maxSteps : Nat := 100000

/-- Runs a shell on the input that came in so far. -/
def Invocation.start (i : Invocation) (input : Text) : Except Halt Unit × Machine :=
  let steps := maxSteps + input.length
  let m := i.machine { input := input.filter (· ≠ taken) }
  match i.script with
  | none => (runInput steps).run m
  | some script => (runScript steps 1 (script ++ ['\n'])).run m

end Rehearsal.Shell
