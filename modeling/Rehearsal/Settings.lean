/-
  Rehearsal.Settings
  ──────────────────────────────────────
  **How a run is configured.**

  Settings have three sections, and every field of every section has a default.
  The defaults drive GHCi.  A configuration file is a YAML document that gives
  some of the fields; a name that is no field is refused.
-/
import Rehearsal.Comparison
import Rehearsal.Fault
import Rehearsal.Property
import Rehearsal.Regex.Search
import Rehearsal.Text.Utf8
import Rehearsal.Yaml.Document

namespace Rehearsal

open Regex (Matcher)

/-! ## §1. The sections. -/

/-- How the interpreter is started and talked to. -/
structure InterpreterSettings where
  command : Text := "ghci"
  arguments : List Text := ["-v0", "-ignore-dot-ghci"]
  /-- Lines that are sent once, before anything else. -/
  preamble : List Text :=
    [ ":set prompt \"\""
    , ":set prompt-cont \"\""
    , "System.IO.hSetBuffering System.IO.stdout System.IO.LineBuffering"
    , "GHC.IO.Handle.hDuplicateTo System.IO.stdout System.IO.stderr" ]
  /-- The line that drops all bindings. -/
  reload : Text := ":reload"
  /-- The line that ends an answer. -/
  sentinel : Text := "--exemplar-done--"
  /-- The line that makes the interpreter print the sentinel. -/
  sentinelCommand : Text := "System.IO.putStrLn \"--exemplar-done--\""
  /-- An answer that has a match is an error. -/
  errorPattern : Text := "(?m)^(\\S+:\\d+:\\d+: error|\\*\\*\\* Exception: )"
  /-- Stands before a request of several lines. -/
  blockOpen : Option Text := some (":\x7b" : Text)
  /-- Stands behind a request of several lines. -/
  blockClose : Option Text := some (":\x7d" : Text)
  deriving DecidableEq, Repr

/-- How laws are put to the interpreter. -/
structure LawSettings where
  /-- The call of the driver; `{expression}` is the law. -/
  template : Text := "Test.QuickCheck.quickCheck (\x7bexpression\x7d)"
  /-- Its first group names an unbound variable in an error text. -/
  freeVariablePattern : Option Text :=
    some ("Variable not in scope: ([a-z_][\\w']*)" : Text)
  /-- Closes the law `{expression}` over the names `{variables}`. -/
  lambdaTemplate : Text := "\\\x7bvariables\x7d -> \x7bexpression\x7d"
  deriving DecidableEq, Repr

/-- All settings of a run. -/
structure Settings where
  interpreter : InterpreterSettings := {}
  laws : LawSettings := {}
  comparison : Comparison := {}
  deriving DecidableEq, Repr

/-! ## §2. Patterns. -/

/-- The matcher of error answers. -/
def InterpreterSettings.errorMatcher (s : InterpreterSettings) : Except SettingsFault Matcher :=
  match Matcher.read? s.errorPattern with
  | some m => .ok m
  | none => .error (.pattern .error)

/-- The matcher of unbound variables, if there is a pattern for them. -/
def LawSettings.freeVariableMatcher (s : LawSettings) :
    Except SettingsFault (Option Matcher) :=
  match s.freeVariablePattern with
  | none => .ok none
  | some pattern =>
      match Matcher.read? pattern with
      | some m => .ok (some m)
      | none => .error (.pattern .freeVariable)

/-- The law checker that the settings describe. -/
def LawSettings.checker (s : LawSettings) : Except SettingsFault LawChecker :=
  s.freeVariableMatcher.map fun matcher =>
    { template := s.template, unbound := matcher.map Matcher.firstGroups
      lambda := s.lambdaTemplate }

/-! ## §3. Configuration files. -/

/-- The names of the comparison strategies. -/
def Strategy.names : List (Text × Strategy) :=
  [("line-exact", .lineExact), ("delegated", .delegated)]

namespace Settings

open Yaml Yaml.Reader

/-- Reads the interpreter section. -/
def readInterpreter : Reader InterpreterSettings := fun depth node => do
  let f ← fields depth node
  f.closed ["command", "args", "preamble", "reload", "sentinel", "sentinel_command",
    "error_pattern", "block_open", "block_close"]
  let standard : InterpreterSettings := {}
  return {
    command := ← f.getD "command" text standard.command
    arguments := ← f.getD "args" (list text) standard.arguments
    preamble := ← f.getD "preamble" (list text) standard.preamble
    reload := ← f.getD "reload" text standard.reload
    sentinel := ← f.getD "sentinel" text standard.sentinel
    sentinelCommand := ← f.getD "sentinel_command" text standard.sentinelCommand
    errorPattern := ← f.getD "error_pattern" text standard.errorPattern
    blockOpen := ← f.getD "block_open" (optional text) standard.blockOpen
    blockClose := ← f.getD "block_close" (optional text) standard.blockClose }

/-- Reads the section about properties. -/
def readLaws : Reader LawSettings := fun depth node => do
  let f ← fields depth node
  f.closed ["template", "free_variable_pattern", "lambda_template"]
  let standard : LawSettings := {}
  return {
    template := ← f.getD "template" text standard.template
    freeVariablePattern :=
      ← f.getD "free_variable_pattern" (optional text) standard.freeVariablePattern
    lambdaTemplate := ← f.getD "lambda_template" text standard.lambdaTemplate }

/-- Reads the section about comparisons. -/
def readComparison : Reader Comparison := fun depth node => do
  let f ← fields depth node
  f.closed ["strategy", "clean_expected", "clean_actual", "equals"]
  let standard : Comparison := {}
  return {
    strategy := ← f.getD "strategy" (choice Strategy.names) standard.strategy
    cleanExpected := ← f.getD "clean_expected" (optional text) standard.cleanExpected
    cleanActual := ← f.getD "clean_actual" (optional text) standard.cleanActual
    equals := ← f.getD "equals" (optional text) standard.equals }

/-- Reads all sections. -/
def reader : Reader Settings := fun depth node => do
  let f ← fields depth node
  f.closed ["interpreter", "properties", "comparison"]
  return {
    interpreter := ← f.getD "interpreter" readInterpreter {}
    laws := ← f.getD "properties" readLaws {}
    comparison := ← f.getD "comparison" readComparison {} }

/-- The settings that a configuration file holds; `contents` is absent if the
file cannot be read. -/
def load (path : Text) (contents : Option Bytes) : Except SettingsFault Settings :=
  match contents.bind Text.ofUtf8? with
  | none => .error (.read path)
  | some text =>
      match Yaml.read? reader text with
      | some settings => .ok settings
      | none => .error (.malformed path)

end Settings

end Rehearsal
