/-
  Rehearsal.Yaml.Node
  ──────────────────────────────────────
  **The tree of a document.**

  A node is a scalar, a sequence or a mapping, each with its tag, or an alias of
  a node that carries an anchor.  Anchors are numbered: the number of an anchor
  is the count of different names that stand before it, and an alias has the
  number of the last anchor of its name before it.
-/
import Rehearsal.Yaml.Token

namespace Rehearsal.Yaml

/-! ## §1. Nodes. -/

/-- What a node carries in front of its content. -/
structure Mark where
  anchor : Option Nat := none
  tag : Option Text := none
  deriving DecidableEq, Repr

/-- A node of a document. -/
inductive Node where
  | scalar (mark : Mark) (style : Style) (text : Text)
  | sequence (mark : Mark) (items : List Node)
  | mapping (mark : Mark) (entries : List (Node × Node))
  | alias (anchor : Nat)
  deriving Repr

namespace Node

/-- What stands for a node that was left out. -/
def absent (mark : Mark) : Node := .scalar mark .plain []

/-- What a node carries in front of its content. -/
def mark : Node → Mark
  | .scalar m _ _ => m
  | .sequence m _ => m
  | .mapping m _ => m
  | .alias _ => {}

mutual

/-- The number of nodes and of ends of collections. -/
def size : Node → Nat
  | .scalar _ _ _ => 1
  | .sequence _ items => 2 + sizeItems items
  | .mapping _ entries => 2 + sizeEntries entries
  | .alias _ => 1

/-- The size of a list of nodes. -/
def sizeItems : List Node → Nat
  | [] => 0
  | n :: rest => size n + sizeItems rest

/-- The size of the entries of a mapping. -/
def sizeEntries : List (Node × Node) → Nat
  | [] => 0
  | (k, v) :: rest => size k + size v + sizeEntries rest

end

mutual

/-- The nodes in and under a node, in the order in which they start. -/
def all : Node → List Node
  | .scalar m s t => [.scalar m s t]
  | .sequence m items => .sequence m items :: allItems items
  | .mapping m entries => .mapping m entries :: allEntries entries
  | .alias a => [.alias a]

/-- The nodes in a list of nodes. -/
def allItems : List Node → List Node
  | [] => []
  | n :: rest => all n ++ allItems rest

/-- The nodes in the entries of a mapping. -/
def allEntries : List (Node × Node) → List Node
  | [] => []
  | (k, v) :: rest => all k ++ all v ++ allEntries rest

end

end Node

/-! ## §2. Reading tokens. -/

/-- What is left to be read, and what has been declared. -/
structure Cursor where
  tokens : List Token
  /-- The number of every anchor name seen. -/
  anchors : List (Text × Nat) := []
  /-- What the handle of a tag stands for. -/
  handles : List (Text × Text) := []

/-- Reads from a token list. -/
abbrev Parse := StateT Cursor Option

namespace Parse

/-- The token at the front; the end of the stream stays in front for ever. -/
def peek : Parse Token := do
  return ((← get).tokens.head?).getD .streamEnd

/-- Drops the token at the front. -/
def skip : Parse Unit := modify fun c => { c with tokens := c.tokens.tail }

/-- Drops the token at the front if it is the given one, and tells whether it was. -/
def accept (t : Token) : Parse Bool := do
  if (← peek) = t then
    skip
    return true
  else return false

/-- The token at the front is one of a list. -/
def sees (ts : List Token) : Parse Bool := do
  return ts.contains (← peek)

/-- Declares an anchor and gives its number. -/
def declare (name : Text) : Parse Nat := do
  let seen := (← get).anchors
  let number := seen.length
  modify fun c =>
    { c with anchors := (name, number) :: seen.filter fun entry => entry.1 ≠ name }
  return number

/-- The number of an anchor that was declared. -/
def number (name : Text) : Parse Nat := do
  match (← get).anchors.lookup name with
  | some n => return n
  | none => failure

/-- The full form of a tag. -/
def expand (handle suffix : Text) : Parse Text := do
  if handle = [] then return suffix
  else
    match (← get).handles.lookup handle with
    | some start => return start ++ suffix
    | none => failure

/-- Reads an anchor or a tag, if one is there. -/
def property (mark : Mark) : Parse Mark := do
  match ← peek with
  | .anchor name =>
      if mark.anchor.isSome then return mark
      else
        skip
        return { mark with anchor := some (← declare name) }
  | .tag handle suffix =>
      if mark.tag.isSome then return mark
      else
        skip
        return { mark with tag := some (← expand handle suffix) }
  | _ => return mark

/-- A scalar with its mark; the tag `!` alone says nothing about it. -/
def scalarNode (mark : Mark) (style : Style) (text : Text) : Node :=
  .scalar (if mark.tag = some ['!'] then { mark with tag := none } else mark) style text

/-- A node that may have been left out: it was if one of `ends` comes next. -/
def orAbsent (ends : List Token) (node : Parse Node) : Parse Node := do
  if ← sees ends then return .absent {} else node

mutual

/-- Reads a node.  In a block it may be a block itself; as the content of a
mapping entry it may be a sequence that is not indented further. -/
def node (inBlock inEntry : Bool) : Nat → Parse Node
  | 0 => failure
  | fuel + 1 => do
      match ← peek with
      | .alias name =>
          skip
          return .alias (← number name)
      | _ =>
          let mark ← property (← property {})
          let next ← peek
          if inEntry && next = .blockEntry then
            return .sequence mark (← looseItems fuel)
          match next with
          | .scalar style text =>
              skip
              return scalarNode mark style text
          | .flowSequenceStart =>
              skip
              return .sequence mark (← flowItems true fuel)
          | .flowMappingStart =>
              skip
              return .mapping mark (← flowEntries true fuel)
          | .blockSequenceStart =>
              if inBlock then
                skip
                return .sequence mark (← blockItems fuel)
              else if mark = {} then failure else return .absent mark
          | .blockMappingStart =>
              if inBlock then
                skip
                return .mapping mark (← blockEntries fuel)
              else if mark = {} then failure else return .absent mark
          | _ => if mark = {} then failure else return .absent mark

/-- The items of an indented sequence, up to its end. -/
def blockItems : Nat → Parse (List Node)
  | 0 => failure
  | fuel + 1 => do
      if ← accept .blockEntry then
        let item ← orAbsent [.blockEntry, .blockEnd] (node true false fuel)
        return item :: (← blockItems fuel)
      else if ← accept .blockEnd then return []
      else failure

/-- The items of a sequence that is not indented. -/
def looseItems : Nat → Parse (List Node)
  | 0 => failure
  | fuel + 1 => do
      if ← accept .blockEntry then
        let item ← orAbsent [.blockEntry, .key, .value, .blockEnd] (node true false fuel)
        return item :: (← looseItems fuel)
      else return []

/-- The entries of an indented mapping, up to its end. -/
def blockEntries : Nat → Parse (List (Node × Node))
  | 0 => failure
  | fuel + 1 => do
      let ends : List Token := [.key, .value, .blockEnd]
      if ← accept .blockEnd then return []
      else if ← accept .key then
        let key ← orAbsent ends (node true true fuel)
        let value ←
          if ← accept .value then orAbsent ends (node true true fuel) else pure (.absent {})
        return (key, value) :: (← blockEntries fuel)
      else failure

/-- The items of a sequence in brackets, up to the closing one.  An item can be a
mapping of one entry without braces. -/
def flowItems (first : Bool) : Nat → Parse (List Node)
  | 0 => failure
  | fuel + 1 => do
      if ← accept .flowSequenceEnd then return []
      let separated ← if first then pure true else accept .flowEntry
      if !separated then failure
      else if ← accept .key then
        let key ←
          if ← sees [.value, .flowEntry, .flowSequenceEnd] then
            skip
            pure (.absent {})
          else node false false fuel
        let value ←
          if ← accept .value then
            orAbsent [.flowEntry, .flowSequenceEnd] (node false false fuel)
          else pure (.absent {})
        return .mapping {} [(key, value)] :: (← flowItems false fuel)
      else if ← accept .flowSequenceEnd then return []
      else
        let item ← node false false fuel
        return item :: (← flowItems false fuel)

/-- The entries of a mapping in braces, up to the closing one. -/
def flowEntries (first : Bool) : Nat → Parse (List (Node × Node))
  | 0 => failure
  | fuel + 1 => do
      if ← accept .flowMappingEnd then return []
      let separated ← if first then pure true else accept .flowEntry
      if !separated then failure
      else if ← accept .key then
        let key ← orAbsent [.value, .flowEntry, .flowMappingEnd] (node false false fuel)
        let value ←
          if ← accept .value then
            orAbsent [.flowEntry, .flowMappingEnd] (node false false fuel)
          else pure (.absent {})
        return (key, value) :: (← flowEntries false fuel)
      else if ← accept .flowMappingEnd then return []
      else
        let key ← node false false fuel
        return (key, .absent {}) :: (← flowEntries false fuel)

end

/-! ## §3. Directives and the document. -/

/-- Reads directives; `versioned` tells whether a version was given already. -/
def directives (versioned : Bool) : Nat → Parse Unit
  | 0 => failure
  | fuel + 1 => do
      match ← peek with
      | .version major minor =>
          if versioned || major ≠ 1 || !(minor = 1 || minor = 2) then failure
          else
            skip
            directives true fuel
      | .tagShorthand handle start =>
          if ((← get).handles.lookup handle).isSome then failure
          else
            skip
            modify fun c => { c with handles := (handle, start) :: c.handles }
            directives versioned fuel
      | _ => return ()

/-- The handles that need no declaration. -/
def standardHandles : List (Text × Text) :=
  [(['!'], ['!']), (['!', '!'], "tag:yaml.org,2002:")]

/-- Adds the standard handles behind the declared ones. -/
def addStandard : Parse Unit :=
  modify fun c => { c with handles := c.handles ++ standardHandles }

/-- Drops all `...` markers at the front. -/
def skipEnds : Nat → Parse Unit
  | 0 => return ()
  | fuel + 1 => do
      if ← accept .documentEnd then skipEnds fuel

/-- Reads the only document of a stream; `none` if there is no document. -/
def document (fuel : Nat) : Parse (Option Node) := do
  if (← peek) = .streamEnd then return none
  let explicit ←
    match ← peek with
    | .version _ _ | .tagShorthand _ _ | .documentStart => pure true
    | _ => pure false
  let root ←
    if explicit then
      directives false fuel
      addStandard
      if !(← accept .documentStart) then failure
      match ← peek with
      | .version _ _ | .tagShorthand _ _ | .documentStart | .documentEnd | .streamEnd =>
          pure (.absent {})
      | _ => node true false fuel
    else
      addStandard
      node true false fuel
  skipEnds fuel
  if (← peek) = .streamEnd then return some root else failure

end Parse

end Rehearsal.Yaml
