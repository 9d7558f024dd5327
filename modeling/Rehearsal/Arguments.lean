/-
  Rehearsal.Arguments
  ──────────────────────────────────────
  **The command line.**

  An option takes its value from behind an equals sign or from the next
  argument.  A value from the next argument is looked at only when the argument
  after it has been recognised, so a mistake there is told first.
-/
import Rehearsal.Report
import Rehearsal.Settings

namespace Rehearsal

/-- What the command line asks for. -/
structure Arguments where
  /-- Manifests and directories of manifests. -/
  paths : List Text := []
  config : Option Text := none
  /-- Overrides the command of the interpreter. -/
  interpreter : Option Text := none
  /-- Overrides the strategy of the comparison. -/
  strategy : Option Strategy := none
  color : ColorChoice := .auto
  /-- The final tally is printed as JSON. -/
  json : Bool := false
  deriving DecidableEq, Repr

/-- Why a command line asks for no run. -/
inductive UsageStop where
  | missingRequiredArgument
  | invalidValue
  | unknownArgument
  | argumentConflict
  | tooManyValues
  | displayHelp
  | displayVersion
  deriving DecidableEq, Repr

/-- The exit code of a stop; help and version are no mistakes. -/
def UsageStop.exitCode : UsageStop → Nat
  | .displayHelp | .displayVersion => 0
  | _ => 2

namespace Arguments

/-! ## §1. Options. -/

/-- Options with a value. -/
inductive ValueOption where
  | config
  | interpreter
  | strategy
  | color
  deriving DecidableEq, Repr

/-- Options without a value. -/
inductive Flag where
  | json
  | help
  | version
  deriving DecidableEq, Repr

/-- The option of a long name. -/
def long? (name : Text) : Option (ValueOption ⊕ Flag) :=
  match String.ofList name with
  | "config" => some (.inl .config)
  | "interpreter" => some (.inl .interpreter)
  | "strategy" => some (.inl .strategy)
  | "color" => some (.inl .color)
  | "json" => some (.inr .json)
  | "help" => some (.inr .help)
  | "version" => some (.inr .version)
  | _ => none

/-- The colors that can be asked for. -/
def colorNames : List (Text × ColorChoice) :=
  [("auto", .auto), ("always", .always), ("never", .never)]

/-! ## §2. Values. -/

/-- Arguments in the making, with the options that were given. -/
structure Draft where
  arguments : Arguments := {}
  given : List ValueOption := []

/-- A value that is one of several names. -/
def named {α : Type} (names : List (Text × α)) (value : Text) : Except UsageStop α :=
  match names.lookup value with
  | some a => .ok a
  | none => .error .invalidValue

/-- A path, which is never empty. -/
def path (value : Text) : Except UsageStop Text :=
  if value = [] then .error .invalidValue else .ok value

/-- Gives an option its value. -/
def Draft.set (d : Draft) (option : ValueOption) (value : Option Text) :
    Except UsageStop Draft :=
  match value with
  | none => .error .invalidValue
  | some value =>
      -- The second value is not even looked at.
      if option ∈ d.given then .error .argumentConflict
      else do
        let a := d.arguments
        let arguments ← match option with
          | .config => do pure { a with config := some (← path value) }
          | .interpreter => pure { a with interpreter := some value }
          | .strategy => do pure { a with strategy := some (← named Strategy.names value) }
          | .color => do pure { a with color := ← named colorNames value }
        return { arguments, given := option :: d.given }

/-- Adds paths. -/
def Draft.addPaths (d : Draft) (values : List Text) : Except UsageStop Draft := do
  let paths ← values.mapM path
  return { d with arguments := { d.arguments with paths := d.arguments.paths ++ paths } }

/-! ## §3. Reading. -/

/-- Values that were not looked at yet. -/
inductive Pending where
  | none
  | option (option : ValueOption) (value : Option Text)
  | paths (values : List Text)
  deriving DecidableEq, Repr

/-- How far the command line was read. -/
structure State where
  draft : Draft := {}
  pending : Pending := .none
  /-- Everything that follows is a path. -/
  onlyPaths : Bool := false

/-- Looks at the pending values. -/
def State.settle (s : State) : Except UsageStop State :=
  match s.pending with
  | .none => .ok s
  | .option option value => do return { s with draft := ← s.draft.set option value, pending := .none }
  | .paths values => do return { s with draft := ← s.draft.addPaths values, pending := .none }

/-- Reads a path. -/
def State.path (s : State) (value : Text) : Except UsageStop State :=
  match s.pending with
  | .paths values => .ok { s with pending := .paths (values ++ [value]) }
  | _ => do return { (← s.settle) with pending := .paths [value] }

/-- Reads an argument that is no option. -/
def State.plain (s : State) (value : Text) : Except UsageStop State :=
  match s.pending with
  -- The option before it still waits for its value.
  | .option option none => .ok { s with pending := .option option (some value) }
  | _ => s.path value

/-- Reads an option without a value. -/
def State.flag (s : State) (flag : Flag) : Except UsageStop State := do
  let s ← s.settle
  match flag with
  | .help => .error .displayHelp
  | .version => .error .displayVersion
  | .json =>
      if s.draft.arguments.json then .error .argumentConflict
      else
        return { s with
          draft := { s.draft with arguments := { s.draft.arguments with json := true } } }

/-- Reads a long option behind its two hyphens. -/
def State.long (s : State) (t : Text) : Except UsageStop State := do
  let name := t.takeWhile (· ≠ '=')
  let value := (t.drop name.length).tail?
  match long? name, value with
  | none, _ => .error .unknownArgument
  | some (.inr _), some _ => .error .tooManyValues
  | some (.inr flag), none => s.flag flag
  | some (.inl option), none => do return { (← s.settle) with pending := .option option none }
  | some (.inl option), some value => do
      let s ← s.settle
      return { s with draft := ← s.draft.set option (some value) }

/-- Reads short options; the first one that is known ends reading. -/
def State.short (s : State) : Text → Except UsageStop State
  | 'h' :: _ => s.flag .help
  | 'V' :: _ => s.flag .version
  | _ => .error .unknownArgument

/-- Reads one argument. -/
def State.next (s : State) (argument : Text) : Except UsageStop State :=
  if s.onlyPaths then s.path argument
  else
    match argument with
    | ['-', '-'] => .ok { s with onlyPaths := true }
    | '-' :: '-' :: t => s.long t
    | '-' :: c :: t => s.short (c :: t)
    | value => s.plain value

/-- Reads a whole command line. -/
def parse (arguments : List Text) : Except UsageStop Arguments := do
  let s ← arguments.foldlM State.next {}
  let s ← s.settle
  if s.draft.arguments.paths = [] then .error .missingRequiredArgument
  else return s.draft.arguments

/-! ## §4. Settings. -/

/-- The settings of a configuration file, or the default ones, with what the
command line overrides.  `contents` gives what a file holds. -/
def settings (a : Arguments) (contents : Text → Option Bytes) : Except SettingsFault Settings := do
  let s ← match a.config with
    | some path => Settings.load path (contents path)
    | none => pure {}
  return { s with
    interpreter := { s.interpreter with command := a.interpreter.getD s.interpreter.command }
    comparison := { s.comparison with strategy := a.strategy.getD s.comparison.strategy } }

end Arguments

end Rehearsal
