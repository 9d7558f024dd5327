/-
  Rehearsal.Yaml.Document
  ──────────────────────────────────────
  **Reading typed data from a document.**

  A `Reader` gets a node and the number of collections that may still be nested
  there.  An alias is read as the node that it names, and the number of aliases
  that are followed is limited, so a small document cannot stand for a huge one.

    • `text`, `optional`, `list`, `number`, `choice` — data of a known shape,
    • `fields` — the entries of a mapping by name,
    • `value` — data of any shape, typed as it is written.
-/
import Rehearsal.Yaml.Node
import Rehearsal.Yaml.Value

namespace Rehearsal.Yaml

/-- A document and the nodes that can be named in it. -/
structure Document where
  root : Node
  /-- The nodes with an anchor; the first one of a number counts. -/
  anchored : List (Nat × Node)

namespace Document

/-- A document from its root. -/
def ofRoot (root : Node) : Document where
  root := root
  anchored := (root.all.filterMap fun n => n.mark.anchor.map fun a => (a, n)).reverse

/-- The document that a text is. -/
def ofText? (t : Text) : Option Document := do
  let tokens ← Token.ofText? t
  let (root, _) ← (Parse.document (4 * tokens.length + 8)).run { tokens := tokens }
  return ofRoot (root.getD (.absent {}))

/-- How many aliases may be followed. -/
def maxJumps (d : Document) : Nat := d.root.size * 100

end Document

/-- How deep collections may be nested. -/
def maxDepth : Nat := 128

/-- Reads from a document; the state is the number of aliases followed so far. -/
abbrev Reading := ReaderT Document (StateT Nat Option)

/-- Reads a node under which so many collections may be nested. -/
abbrev Reader (α : Type) := Nat → Node → Reading α

namespace Reader

variable {α : Type}

/-- The node that an alias names; any other node is itself. -/
def follow : Node → Reading Node
  | .alias a => do
      let doc ← read
      let jumps := (← get) + 1
      -- Checked before the node is looked up, so a cycle ends here.
      if jumps > doc.maxJumps then failure
      set jumps
      match doc.anchored.lookup a with
      | some n => return n
      | none => failure
  | n => return n

/-! ## §1. Data of a known shape. -/

/-- The text of any scalar, whatever it stands for. -/
def text : Reader Text := fun _ n => do
  match ← follow n with
  | .scalar _ _ t => return t
  | _ => failure

/-- Whether a node is there; a plain null stands for nothing. -/
def isGiven : Node → Reading Bool
  | .scalar mark .plain t =>
      match mark.tag with
      | none => return !(t = [] || isNull t)
      | some tag =>
          if tag ≠ coreTag "null" then return true
          else if isNull t then return false
          else failure
  | _ => return true

/-- Reads what may be missing. -/
def optional (r : Reader α) : Reader (Option α) := fun depth n => do
  let n ← follow n
  if ← isGiven n then return some (← r depth n) else return none

/-- Reads all members of a sequence; an empty plain scalar is an empty one. -/
def list (r : Reader α) : Reader (List α) := fun depth n => do
  match ← follow n, depth with
  | .sequence _ items, depth + 1 => items.mapM (r depth)
  | .scalar _ .plain [], _ => return []
  | _, _ => failure

/-- A natural number of 64 bits; not in quotes. -/
def number : Reader Nat := fun _ n => do
  match ← follow n with
  | .scalar mark style t =>
      if style = .plain || (style = .literal && mark.tag = some (coreTag "int")) then
        match natural? t with
        | some n => if n < Nat.pow 2 64 then return n else failure
        | none => failure
      else failure
  | _ => failure

/-- One of several names, as text or as a tag of its own. -/
def choice (names : List (Text × α)) : Reader α := fun _ n => do
  let named (t : Text) : Reading α :=
    match names.lookup t with
    | some a => return a
    | none => failure
  match ← follow n with
  | .scalar mark style t =>
      match mark.tag with
      | some ('!' :: name) =>
          if style = .plain && (t = [] || isNull t) then named name else failure
      | _ => named t
  | _ => failure

/-! ## §2. Mappings by name. -/

/-- The entries of a mapping, and the depth that is left under them. -/
structure Fields where
  depth : Nat
  entries : List (Text × Node)

/-- The entries of a mapping; an empty plain scalar is an empty one. -/
def fields : Reader Fields := fun depth n => do
  match ← follow n, depth with
  | .mapping _ entries, depth + 1 => do
      let entries ← entries.mapM fun (key, node) => do return (← text depth key, node)
      return { depth := depth, entries := entries }
  | .scalar _ .plain [], _ => return { depth := depth, entries := [] }
  | _, _ => failure

namespace Fields

/-- How often a name occurs. -/
def count (f : Fields) (name : Text) : Nat :=
  (f.entries.filter fun e => e.1 = name).length

/-- Only the given names occur, and none of them twice. -/
def closed (f : Fields) (names : List Text) : Reading Unit := do
  if f.entries.all (fun e => names.contains e.1) && names.all (f.count · ≤ 1) then return ()
  else failure

/-- Reads the field of a name, if it is there. -/
def get? (f : Fields) (name : Text) (r : Reader α) : Reading (Option α) :=
  match f.entries.lookup name with
  | some n => do return some (← r f.depth n)
  | none => return none

/-- Reads the field of a name, or takes the default. -/
def getD (f : Fields) (name : Text) (r : Reader α) (default : α) : Reading α := do
  return (← f.get? name r).getD default

end Fields

/-! ## §3. Data of any shape. -/

/-- The node has a tag that is not one of the core ones. -/
def hasOwnTag (mark : Mark) : Bool :=
  match mark.tag with
  | some ('!' :: _) => true
  | _ => false

/-- Reads data as it is written. -/
def value : Reader Value
  | 0, n => do
      match ← follow n with
      | .scalar mark style t => ((Value.ofScalar? mark.tag style t : Option Value) : Reading Value)
      | _ => failure
  | depth + 1, n => do
      match ← follow n with
      | .scalar mark style t => ((Value.ofScalar? mark.tag style t : Option Value) : Reading Value)
      | .sequence mark items =>
          if hasOwnTag mark then failure
          else return .list (← items.mapM (value depth))
      | .mapping mark entries =>
          if hasOwnTag mark then failure
          else
            return .map (← entries.mapM fun (k, v) => do
              return (← value depth k, ← value depth v))
      | .alias _ => failure

end Reader

/-- Reads a whole text. -/
def read? {α : Type} (r : Reader α) (t : Text) : Option α := do
  let doc ← Document.ofText? t
  let (a, _) ← ((r maxDepth doc.root).run doc).run 0
  return a

end Rehearsal.Yaml
