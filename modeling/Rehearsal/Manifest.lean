/-
  Rehearsal.Manifest
  ──────────────────────────────────────
  **Suites as they are written down.**

  A manifest is a YAML document with a list `modules`.  The names around an item
  are fixed.  The item itself is either an `example` or a `property`, whichever
  comes first, and may carry other names, which mean nothing.
-/
import Rehearsal.Fault
import Rehearsal.Suite
import Rehearsal.Text.Lines
import Rehearsal.Text.Utf8
import Rehearsal.Yaml.Document

namespace Rehearsal.Manifest

open Yaml Yaml.Reader

/-! ## §1. What is written. -/

/-- One expression of an example. -/
structure Entry where
  expression : Text
  expected : List Text := []
  line : Option Nat := none
  deriving DecidableEq, Repr

/-- What an item is. -/
inductive Kind where
  | example (entries : List Entry)
  | property (expression : Text)
  deriving DecidableEq, Repr

/-- An item and its own line. -/
structure WrittenItem where
  line : Option Nat
  kind : Kind
  deriving DecidableEq, Repr

/-- A module with its items. -/
structure WrittenModule where
  name : Text
  path : Option Text
  setup : Option (List WrittenItem)
  groups : List (List WrittenItem)
  deriving DecidableEq, Repr

/-! ## §2. Values as parts of an item. -/

/-- The text that a value is. -/
def textOf? : Value → Option Text
  | .text t => some t
  | _ => none

/-- Expected output: a list of lines, or a text that is cut into lines. -/
def expectedOf? : Value → Option (List Text)
  | .list items => items.mapM textOf?
  | .text t => some (Text.lines t)
  | _ => none

/-- A line number, or nothing. -/
def lineOf? : Value → Option (Option Nat)
  | .null => some none
  | .natural n => some (some n)
  -- A zero with a sign is a zero.
  | .negative 0 => some (some 0)
  | _ => none

/-- The parts of an entry. -/
inductive EntryField where
  | expression
  | expected
  | line
  deriving DecidableEq, Repr

/-- The part that a key stands for: by its name or by its position. -/
def entryField? : Value → Option EntryField
  | .text t =>
      if t = ("expression" : Text) then some .expression
      else if t = ("expected" : Text) then some .expected
      else if t = ("line" : Text) then some .line
      else none
  | .natural 0 => some .expression
  | .natural 1 => some .expected
  | .natural 2 => some .line
  | _ => none

/-- The entry that its parts make; every part occurs at most once. -/
def entryOfFields? (fields : List (EntryField × Value)) : Option Entry := do
  if !(fields.map (·.1)).Nodup then none
  else
    let expression ← (fields.lookup .expression).bind textOf?
    let expected ← ((fields.lookup .expected).map expectedOf?).getD (some [])
    let line ← ((fields.lookup .line).map lineOf?).getD (some none)
    return { expression, expected, line }

/-- The entry that a value is: a mapping, or the list of all three parts. -/
def entryOf? : Value → Option Entry
  | .map entries => do
      let fields ← entries.mapM fun (k, v) => do return (← entryField? k, v)
      entryOfFields? fields
  | .list [expression, expected, line] => do
      return {
        expression := ← textOf? expression
        expected := ← expectedOf? expected
        line := ← lineOf? line }
  | _ => none

/-- The entries that a value is. -/
def entriesOf? : Value → Option (List Entry)
  | .list items => items.mapM entryOf?
  | _ => none

/-- The kind that the first telling name gives an item. -/
def kindOf? : List (Text × Value) → Option Kind
  | [] => none
  | (key, v) :: rest =>
      if key = ("example" : Text) then (entriesOf? v).map .example
      else if key = ("property" : Text) then (textOf? v).map .property
      else kindOf? rest

/-! ## §3. Reading. -/

/-- Reads an item. -/
def readItem : Reader WrittenItem := fun depth node => do
  let f ← fields depth node
  if f.count "line" > 1 then failure
  let line ← f.getD "line" (optional number) none
  let others := f.entries.filter fun e => e.1 ≠ ("line" : Text)
  let values ← others.mapM fun (key, node) => do return (key, ← value f.depth node)
  match kindOf? values with
  | some kind => return { line, kind }
  | none => failure

/-- Reads a module. -/
def readModule : Reader WrittenModule := fun depth node => do
  let f ← fields depth node
  f.closed ["name", "path", "setup", "groups"]
  match ← f.get? "name" text with
  | none => failure
  | some name =>
      return {
        name := name
        path := ← f.getD "path" (optional text) none
        setup := ← f.getD "setup" (optional (list readItem)) none
        groups := ← f.getD "groups" (list (list readItem)) [] }

/-- Reads all modules of a manifest. -/
def reader : Reader (List WrittenModule) := fun depth node => do
  let f ← fields depth node
  f.closed ["modules"]
  f.getD "modules" (list readModule) []

/-! ## §4. Suites. -/

/-- The place of a line; without a line it is labeled with the module. -/
def WrittenModule.place (m : WrittenModule) : Option Nat → Place
  | some n => .line (m.path.getD m.name) n
  | none => .label ('<' :: m.name ++ ['>'])

/-- The item as it is run.  A step without a line of its own has the line of the
item. -/
def WrittenModule.item (m : WrittenModule) (i : WrittenItem) : Item :=
  match i.kind with
  | .property expression => .law ⟨m.place i.line, expression⟩
  | .example entries =>
      .dialogue (entries.map fun e =>
        -- The own line of the step comes first.
        { place := m.place (e.line <|> i.line)
          expression := e.expression
          expected := e.expected })

/-- The suite that a module describes. -/
def WrittenModule.suite (m : WrittenModule) : Suite where
  name := m.name
  setup := m.setup.map (·.map m.item)
  groups := m.groups.map (·.map m.item)

/-- The suites that the text of a manifest describes. -/
def parse (path text : Text) : Except ManifestFault (List Suite) :=
  match Yaml.read? reader text with
  | some modules => .ok (modules.map WrittenModule.suite)
  | none => .error (.malformed path)

/-- The suites of a manifest file; `contents` is absent if it cannot be read. -/
def load (path : Text) (contents : Option Bytes) : Except ManifestFault (List Suite) :=
  match contents.bind Text.ofUtf8? with
  | some text => parse path text
  | none => .error (.read path)

end Rehearsal.Manifest
