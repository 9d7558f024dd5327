/-
  Rehearsal.Fault
  ──────────────────────────────────────
  **What can stop a run.**

  A step that fails or cannot be evaluated is an outcome, not a fault.  A fault
  is a cause; its code, its message and its advice are read off it.
-/
import Rehearsal.Text.Chars

namespace Rehearsal

/-- What a fault looks like to the user. -/
structure Notice where
  code : Text
  message : Text
  help : Option Text := none
  deriving DecidableEq, Repr

/-! ## §1. The session. -/

/-- The two ends of a child process. -/
inductive Pipe where
  | input
  | output
  deriving DecidableEq, Repr

/-- The name of a pipe as the system knows it. -/
def Pipe.name : Pipe → Text
  | .input => "stdin"
  | .output => "stdout"

/-- The session cannot be used (any more). -/
inductive SessionFault where
  /-- The interpreter could not be started. -/
  | spawn (command : Text)
  /-- One of its pipes is not there. -/
  | missingPipe (pipe : Pipe)
  /-- Reading or writing failed. -/
  | io
  /-- The interpreter closed its output. -/
  | closed
  /-- The reload printed an error. -/
  | reload (output : Text)
  /-- The preamble printed an error. -/
  | preamble (output : Text)
  deriving DecidableEq, Repr

/-- How a session fault is told. -/
def SessionFault.notice : SessionFault → Notice
  | .spawn command =>
      { code := "exemplar::session::spawn"
        message := ("failed to start interpreter `" : Text) ++ command ++ ("`" : Text)
        help := some (("check that `" : Text) ++ command
          ++ ("` is installed and on your PATH" : Text)) }
  | .missingPipe pipe =>
      { code := "exemplar::session::pipe"
        message := ("interpreter " : Text) ++ pipe.name ++ (" was not captured" : Text) }
  | .io =>
      { code := "exemplar::session::io"
        message := "I/O error while talking to the interpreter" }
  | .closed =>
      { code := "exemplar::session::closed"
        message := "interpreter exited unexpectedly" }
  | .reload output =>
      { code := "exemplar::session::reload"
        message := ("session reload failed:\n" : Text) ++ output
        help := some
          "the modules under test must load cleanly before any example can run" }
  | .preamble output =>
      { code := "exemplar::session::preamble"
        message := ("interpreter preamble failed:\n" : Text) ++ output
        help := some "check the `interpreter.preamble` lines in the configuration" }

/-! ## §2. The run. -/

/-- What ends a run before its last suite. -/
inductive RunFault where
  | session (fault : SessionFault)
  /-- The report could not be written. -/
  | report
  deriving DecidableEq, Repr

/-- How a run fault is told. -/
def RunFault.notice : RunFault → Notice
  | .session fault => fault.notice
  | .report => { code := "exemplar::report", message := "failed to write the report" }

/-! ## §3. Input files. -/

/-- A manifest that cannot be used. -/
inductive ManifestFault where
  /-- The file cannot be read as text. -/
  | read (path : Text)
  /-- Its text is not a manifest. -/
  | malformed (path : Text)
  /-- A root cannot be walked. -/
  | walk (path : Text)
  deriving DecidableEq, Repr

/-- How a manifest fault is told. -/
def ManifestFault.notice : ManifestFault → Notice
  | .read path =>
      { code := "exemplar::manifest::read"
        message := ("failed to read manifest " : Text) ++ path }
  | .malformed path =>
      { code := "exemplar::manifest::syntax"
        message := ("malformed manifest " : Text) ++ path
        help := some "a manifest is a YAML document with a top-level `modules` list" }
  | .walk path =>
      { code := "exemplar::manifest::walk", message := ("failed to walk " : Text) ++ path }

/-- The two settings that hold a pattern. -/
inductive PatternField where
  | error
  | freeVariable
  deriving DecidableEq, Repr

/-- The field's name in a configuration file. -/
def PatternField.name : PatternField → Text
  | .error => "interpreter.error_pattern"
  | .freeVariable => "properties.free_variable_pattern"

/-- Settings that cannot be used. -/
inductive SettingsFault where
  /-- The file cannot be read as text. -/
  | read (path : Text)
  /-- Its text is not a configuration. -/
  | malformed (path : Text)
  /-- A pattern is not a regular expression. -/
  | pattern (field : PatternField)
  deriving DecidableEq, Repr

/-- How a settings fault is told. -/
def SettingsFault.notice : SettingsFault → Notice
  | .read path =>
      { code := "exemplar::config::read", message := ("failed to read config " : Text) ++ path }
  | .malformed path =>
      { code := "exemplar::config::syntax", message := ("malformed config " : Text) ++ path }
  | .pattern field =>
      { code := "exemplar::config::pattern"
        message := ("invalid pattern in `" : Text) ++ field.name ++ ("`" : Text) }

end Rehearsal
