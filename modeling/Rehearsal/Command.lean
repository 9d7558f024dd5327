/-
  Rehearsal.Command
  ──────────────────────────────────────
  **The whole program.**

  The settings are read first, then the manifests, then the pattern of the laws
  is compiled, and then the interpreter is started.  The first fault ends the
  program.  The report goes to standard error, the tally as JSON to standard
  output.
-/
import Rehearsal.Arguments
import Rehearsal.Discovery
import Rehearsal.Program
import Rehearsal.Run

namespace Rehearsal.Command

/-- What ended a program before its time. -/
inductive Fatal where
  | settings (fault : SettingsFault)
  | manifest (fault : ManifestFault)
  | start (fault : StartFault)
  | run (fault : RunFault)
  deriving DecidableEq, Repr

/-- How a fatal fault is told. -/
def Fatal.notice : Fatal → Notice
  | .settings fault => fault.notice
  | .manifest fault => fault.notice
  | .start fault => fault.notice
  | .run fault => fault.notice

/-- What a program leaves behind. -/
structure Ending where
  exitCode : Nat
  /-- What was written to standard output. -/
  output : Text := []
  /-- What was written to standard error. -/
  report : Text := []
  fatal : Option Fatal := none
  /-- Why nothing was run at all. -/
  usage : Option UsageStop := none

/-- The text that a log shows. -/
def writtenText : List Event → Text
  | [] => []
  | .wrote t :: rest => t ++ writtenText rest
  | _ :: rest => writtenText rest

/-- The console of a report that does not go to a terminal. -/
def console (choice : ColorChoice) : Console where
  colored := match choice.effective false with
    | .always | .alwaysAnsi => true
    | _ => false

/-- What is needed for a run. -/
structure Prepared where
  suites : List Suite
  rehearser : Rehearser (Wire.State Program.Running)
  start : Wire.State Program.Running

/-- Prepares a run. -/
def prepare (files : Discovery.Lookup) (a : Arguments) : Except Fatal Prepared := do
  let settings ← (a.settings (Discovery.contents? files)).mapError .settings
  let suites ← (Discovery.loadAll files a.paths).mapError .manifest
  let laws ← settings.laws.checker.mapError .settings
  -- The interpreter comes last: nothing is started for settings that cannot be used.
  let (session, start) ← settings.interpreter.start.mapError .start
  return { suites, rehearser := { session, laws, comparison := settings.comparison }, start }

/-- Runs what the arguments describe. -/
def execute (files : Discovery.Lookup) (a : Arguments) : Ending :=
  match prepare files a with
  | .error fatal => { exitCode := 1, fatal := some fatal }
  | .ok p =>
      let (result, stage) := p.rehearser.rehearse p.start (console a.color) p.suites
      let report := writtenText stage.log
      match result with
      | .error fault => { exitCode := 1, report, fatal := some (.run fault) }
      | .ok tally =>
          { exitCode := if tally.isSuccess then 0 else 1
            output := if a.json then tally.json ++ ['\n'] else []
            report }

/-- The name and version of the program. -/
def versionText : Text := "exemplar 0.1.0\n"

/-- How the program is used. -/
def helpText : Text :=
  ("Replays interactive examples against a live interpreter session.\n\n" : Text)
    ++ ("Usage: exemplar [OPTIONS] <PATHS>...\n\n" : Text)
    ++ ("Arguments:\n" : Text)
    ++ ("  <PATHS>...  Manifest files or directories containing them\n\n" : Text)
    ++ ("Options:\n" : Text)
    ++ ("      --config <FILE>        YAML configuration file\n" : Text)
    ++ ("      --interpreter <CMD>    Interpreter command, overriding the configuration\n" : Text)
    ++ ("      --strategy <STRATEGY>  How expected and actual output are compared " : Text)
    ++ ("[possible values: line-exact, delegated]\n" : Text)
    ++ ("      --color <COLOR>        When to color the report [default: auto] " : Text)
    ++ ("[possible values: auto, always, never]\n" : Text)
    ++ ("      --json                 Print the final summary as JSON on stdout\n" : Text)
    ++ ("  -h, --help                 Print help\n" : Text)
    ++ ("  -V, --version              Print version\n" : Text)

/-- What is printed when nothing is run. -/
def usageText : UsageStop → Text
  | .displayHelp => helpText
  | .displayVersion => versionText
  | _ => []

/-- Runs a command line. -/
def run (files : Discovery.Lookup) (arguments : List Text) : Ending :=
  match Arguments.parse arguments with
  | .error stop =>
      { exitCode := stop.exitCode, output := usageText stop, usage := some stop }
  | .ok a => execute files a

end Rehearsal.Command
