/-
  Rehearsal.Yaml.Token
  ──────────────────────────────────────
  **The tokens of a document.**

  Blocks are marked by start and end tokens that stand in the text only as
  indentation.  A key without an indicator is recognised at the colon behind it,
  so a place where a key may have started is remembered, and the key token is
  put in there later.  Such a key stays on one line and within 1024 characters.
-/
import Rehearsal.Yaml.Scalar
import Rehearsal.Text.Utf8

namespace Rehearsal.Yaml

/-- The tokens between the start and the end of a document stream. -/
inductive Token where
  | streamEnd
  | version (major minor : Nat)
  | tagShorthand (handle start : Text)
  | documentStart
  | documentEnd
  | blockSequenceStart
  | blockMappingStart
  | blockEnd
  | flowSequenceStart
  | flowSequenceEnd
  | flowMappingStart
  | flowMappingEnd
  | blockEntry
  | flowEntry
  | key
  | value
  | alias (name : Text)
  | anchor (name : Text)
  | tag (handle suffix : Text)
  | scalar (style : Style) (text : Text)
  deriving DecidableEq, Repr

/-! ## §1. The state of the lexer. -/

/-- A place where a key may have started. -/
structure KeyMark where
  /-- Nothing else than a key can stand there. -/
  required : Bool
  /-- The number of tokens before it. -/
  number : Nat
  line : Nat
  column : Nat
  index : Nat
  deriving Repr

/-- What was read so far. -/
structure Lexer where
  /-- One more than the column of the innermost block; zero outside of blocks. -/
  level : Nat := 0
  /-- The levels of the blocks around it. -/
  outer : List Nat := []
  /-- A key may start here. -/
  keyAllowed : Bool := true
  /-- For every open bracket, and for the text outside of brackets, the place
  where a key may have started; the innermost first. -/
  keys : List (Option KeyMark) := [none]
  tokens : Array Token := #[]

namespace Lexer

/-- The lexer is inside brackets. -/
def inFlow (l : Lexer) : Bool := l.keys.length > 1

/-- Adds a token. -/
def add (l : Lexer) (t : Token) : Lexer := { l with tokens := l.tokens.push t }

/-- Puts a token in behind the first `n` ones. -/
def insert (l : Lexer) (n : Nat) (t : Token) : Lexer :=
  { l with tokens := l.tokens.insertIdxIfInBounds n t }

/-- Opens a block at a column, unless one is open there already. -/
def openBlock (l : Lexer) (column : Nat) (number : Option Nat) (t : Token) : Lexer :=
  if l.inFlow || column + 1 ≤ l.level then l
  else
    let l := { l with outer := l.level :: l.outer, level := column + 1 }
    match number with
    | some n => l.insert n t
    | none => l.add t

/-- Closes blocks until the level is at most `level`. -/
def closeBlocks (level : Nat) : List Nat → Lexer → Lexer
  | [], l => l
  | o :: outer, l =>
      if level < l.level then
        closeBlocks level outer { (l.add .blockEnd) with level := o, outer := outer }
      else l

/-- Closes blocks until the level is at most `level`; brackets keep them open. -/
def close (l : Lexer) (level : Nat) : Lexer :=
  if l.inFlow then l else closeBlocks level l.outer l

/-- Forgets the place of a key; `none` if there had to be one. -/
def dropKey? (l : Lexer) : Option Lexer :=
  match l.keys with
  | some k :: rest => if k.required then none else some { l with keys := none :: rest }
  | _ => some l

/-- Remembers that a key may start here. -/
def markKey? (l : Lexer) (s : Spots) : Option Lexer :=
  if l.keyAllowed then
    l.dropKey?.map fun l =>
      let mark : KeyMark :=
        { required := !l.inFlow && l.level == s.column + 1
          number := l.tokens.size
          line := s.line, column := s.column, index := s.index }
      { l with keys := some mark :: l.keys.tail }
  else some l

/-- Forgets the places that are too far away; `none` if there had to be a key. -/
def dropStale? (l : Lexer) (s : Spots) : Option Lexer :=
  let stale (k : KeyMark) : Bool := k.line < s.line || k.index + 1024 < s.index
  if l.keys.any fun k => k.any fun k => stale k && k.required then none
  else some { l with keys := l.keys.map fun k => k.filter fun k => !stale k }

/-! ## §2. Between tokens. -/

/-- Skips blanks, comments and line breaks.  Outside of brackets a new line may
start a key, and a tab may not stand where a key could. -/
def skipGap (fuel : Nat) (l : Lexer) (s : Spots) : Lexer × Spots :=
  match fuel with
  | 0 => (l, s)
  | fuel + 1 =>
      let tabs := l.inFlow || !l.keyAllowed
      let s := s.skipWhile fun c => c = ' ' || (tabs && c = '\t')
      let s := if s.char = '#' then s.skipWhile (!isBreakOrEnd ·) else s
      if isBreak s.char then
        skipGap fuel (if l.inFlow then l else { l with keyAllowed := true }) s.skipBreak
      else (l, s)

/-! ## §3. Tags and directives. -/

/-- Characters of a tag. -/
def isTagChar (verbatim : Bool) (c : Char) : Bool :=
  isWordChar c || ";/?:@&=+$.%!~*'()".toList.contains c
    || (verbatim && ",[]".toList.contains c)

/-- How many bytes a character takes that starts with this one. -/
def utf8Length? (b : Nat) : Option Nat :=
  if b < 0x80 then some 1
  else if b < 0xC0 then none
  else if b < 0xE0 then some 2
  else if b < 0xF0 then some 3
  else if b < 0xF8 then some 4
  else none

/-- Reads the characters of a tag, as bytes; `pending` is the number of bytes
that the character at hand still needs. -/
def tagBytes? (verbatim : Bool) (fuel : Nat) (pending : Nat) (s : Spots) :
    Option (Bytes × Spots) :=
  match fuel with
  | 0 => none
  | fuel + 1 =>
      let c := s.char
      if c = '%' then do
        let (b, rest) ← hexValue? 0 2 s.tail
        let left ←
          if pending = 0 then (utf8Length? b).map (· - 1)
          else if 0x80 ≤ b ∧ b < 0xC0 then some (pending - 1) else none
        let (more, rest) ← tagBytes? verbatim fuel left rest
        pure (UInt8.ofNat b :: more, rest)
      else if pending > 0 then none
      else if isTagChar verbatim c then
        (tagBytes? verbatim fuel 0 s.tail).map fun (more, rest) =>
          (UInt8.ofNat c.toNat :: more, rest)
      else some ([], s)

/-- Reads a tag text; it may not be empty unless `emptyAllowed`. -/
def tagText? (verbatim emptyAllowed : Bool) (s : Spots) : Option (Text × Spots) :=
  (tagBytes? verbatim (s.length + 1) 0 s).bind fun (bytes, rest) =>
    if bytes = [] ∧ emptyAllowed = false then none else some (Text.ofUtf8Lossy bytes, rest)

/-- Reads `!`, letters and, if it is there, a second `!`. -/
def tagHandle? (s : Spots) : Option (Text × Spots) :=
  if s.char = '!' then
    let (name, rest) := Spots.takeWhile isWordChar s.tail
    if Spots.char rest = '!' then some ('!' :: name ++ ['!'], rest.tail) else some ('!' :: name, rest)
  else none

/-- Reads a tag: its handle and its suffix. -/
def tag? (inFlow : Bool) (s : Spots) : Option (Token × Spots) := do
  let (handle, suffix, rest) ←
    if s.charAt 1 = '<' then
      (tagText? true false (s.drop 2)).bind fun (suffix, rest) =>
        if Spots.char rest = '>' then some ([], suffix, rest.tail) else none
    else do
      let (handle, rest) ← tagHandle? s
      if handle.length > 1 ∧ handle.getLast? = some '!' then
        let (suffix, rest) ← tagText? false false rest
        pure (handle, suffix, rest)
      else
        let (more, rest) ← tagText? false true rest
        let suffix := handle.tail ++ more
        if suffix = [] then pure ([], handle, rest) else pure (['!'], suffix, rest)
  if isGap (Spots.char rest) || (inFlow && Spots.char rest = ',') then
    pure (.tag handle suffix, rest)
  else none

/-- Reads a number of at most nine digits. -/
def number? (s : Spots) : Option (Nat × Spots) :=
  let (digits, rest) := s.takeWhile Char.isDigit
  if digits = [] ∨ digits.length > 9 then none
  else some (digits.foldl (fun n c => n * 10 + (c.toNat - '0'.toNat)) 0, rest)

/-- Reads a directive behind its percent sign, up to and with the line break. -/
def directive? (s : Spots) : Option (Token × Spots) := do
  let (name, rest) := s.takeWhile isWordChar
  if !isGap rest.char then none
  else
    let rest := rest.skipWhile isSpace
    let (token, rest) ←
      if name = ("YAML" : Text) then do
        let (major, rest) ← number? rest
        if rest.char ≠ '.' then none
        else
          let (minor, rest) ← number? rest.tail
          pure (Token.version major minor, rest)
      else if name = ("TAG" : Text) then do
        let (handle, rest) ← tagHandle? rest
        if handle.length > 1 ∧ handle.getLast? ≠ some '!' then none
        else if !isSpace rest.char then none
        else
          let (start, rest) ← tagText? true false (rest.skipWhile isSpace)
          if isGap rest.char then pure (Token.tagShorthand handle start, rest) else none
      else none
    let rest := rest.skipWhile isSpace
    let rest := if rest.char = '#' then rest.skipWhile (!isBreakOrEnd ·) else rest
    if isBreakOrEnd rest.char then pure (token, rest.skipBreak) else none

/-- Reads the name of an anchor or alias behind its sign. -/
def anchorName? (s : Spots) : Option (Text × Spots) :=
  let (name, rest) := s.takeWhile isWordChar
  if name ≠ [] ∧ (isGap rest.char || "?:,]\x7d%@`".toList.contains rest.char) then
    some (name, rest)
  else none

/-! ## §4. One token. -/

/-- Adds a token that ends all blocks. -/
def topLevel? (l : Lexer) (t : Token) : Option Lexer :=
  (l.close 0).dropKey?.map fun l => { (l.add t) with keyAllowed := false }

/-- Reads a colon.  If a key can have started before it, the key token is put
in there. -/
def value? (l : Lexer) (s : Spots) : Option Lexer :=
  match l.keys with
  | some k :: rest =>
      -- The mapping starts in front of its first key, so it is put in last.
      let l := l.insert k.number .key
      let l := l.openBlock k.column (some k.number) .blockMappingStart
      some { (l.add .value) with keys := none :: rest, keyAllowed := false }
  | _ =>
      if l.inFlow then some { (l.add .value) with keyAllowed := false }
      else if !l.keyAllowed then none
      else some ((l.openBlock s.column none .blockMappingStart).add .value)

/-- Characters with which no plain scalar starts. -/
def isIndicator (c : Char) : Bool := "-?:,[]\x7b\x7d#&*!|>'\"%@`".toList.contains c

/-- A plain scalar can start at the front. -/
def startsPlain (inFlow : Bool) (s : Spots) : Bool :=
  let c := s.char
  let next := s.charAt 1
  !(isGap c || isIndicator c) || (c = '-' && !isSpace next)
    || (!inFlow && (c = '?' || c = ':') && !isGap next)

/-- Reads one token; the spots are behind all gaps.  `true` at the end. -/
def token? (l : Lexer) (s : Spots) : Option (Lexer × Spots × Bool) := do
  let c := s.char
  let next := s.charAt 1
  let flow := l.inFlow
  -- A token that may be a key, or the start of one.
  let keyed (read : Option (Token × Spots)) : Option (Lexer × Spots × Bool) := do
    let l ← l.markKey? s
    let (t, rest) ← read
    pure ({ (l.add t) with keyAllowed := false }, rest, false)
  -- The order of the cases matters: a marker starts with characters of other tokens.
  if c = endChar then
    let l ← topLevel? l .streamEnd
    pure (l, s, true)
  else if s.column = 0 && c = '%' then
    let (t, rest) ← directive? s.tail
    let l ← topLevel? l t
    pure (l, rest, false)
  else if s.atMarker '-' then pure (← topLevel? l .documentStart, s.drop 3, false)
  else if s.atMarker '.' then pure (← topLevel? l .documentEnd, s.drop 3, false)
  else if c = '[' || c = '\x7b' then
    let l ← l.markKey? s
    let l := l.add (if c = '[' then .flowSequenceStart else .flowMappingStart)
    pure ({ l with keys := none :: l.keys, keyAllowed := true }, s.tail, false)
  else if c = ']' || c = '\x7d' then
    let l ← l.dropKey?
    let l := l.add (if c = ']' then .flowSequenceEnd else .flowMappingEnd)
    -- A bracket that closes nothing is left to the grammar.
    let keys := if flow then l.keys.tail else l.keys
    pure ({ l with keys := keys, keyAllowed := false }, s.tail, false)
  else if c = ',' then
    let l ← l.dropKey?
    pure ({ (l.add .flowEntry) with keyAllowed := true }, s.tail, false)
  else if c = '-' && isGap next then
    if !flow && !l.keyAllowed then none
    else
      let l ← (l.openBlock s.column none .blockSequenceStart).dropKey?
      pure ({ (l.add .blockEntry) with keyAllowed := true }, s.tail, false)
  else if c = '?' && (flow || isGap next) then
    if !flow && !l.keyAllowed then none
    else
      let l ← (l.openBlock s.column none .blockMappingStart).dropKey?
      pure ({ (l.add .key) with keyAllowed := !flow }, s.tail, false)
  else if c = ':' && (flow || isGap next) then
    let l ← value? l s
    pure (l, s.tail, false)
  else if c = '*' then keyed ((anchorName? s.tail).map fun (n, rest) => (.alias n, rest))
  else if c = '&' then keyed ((anchorName? s.tail).map fun (n, rest) => (.anchor n, rest))
  else if c = '!' then keyed (tag? flow s)
  else if (c = '|' || c = '>') && !flow then
    let l ← l.dropKey?
    -- Outside of all blocks the text may start in the first column.
    let indent := if l.level = 0 then none else some (l.level - 1)
    let (text, rest) ← block? (c = '|') indent s.tail
    let style : Style := if c = '|' then .literal else .folded
    pure ({ (l.add (.scalar style text)) with keyAllowed := true }, rest, false)
  else if c = '\'' then
    keyed ((quoted? true s.tail).map fun (t, rest) => (.scalar .singleQuoted t, rest))
  else if c = '"' then
    keyed ((quoted? false s.tail).map fun (t, rest) => (.scalar .doubleQuoted t, rest))
  else if startsPlain flow s then
    let l ← l.markKey? s
    let (text, broken, rest) ← plain? flow l.level s
    pure ({ (l.add (.scalar .plain text)) with keyAllowed := broken }, rest, false)
  else none

/-- Reads tokens up to the end. -/
def all? (fuel : Nat) (l : Lexer) (s : Spots) : Option (List Token) :=
  match fuel with
  | 0 => none
  | fuel + 1 => do
      let (l, s) := skipGap (s.length + 1) l s
      let l ← l.dropStale? s
      let l := l.close (s.column + 1)
      let (l, rest, done) ← token? l s
      if done then pure l.tokens.toList else all? fuel l rest

end Lexer

/-- The tokens of a text, if it can be cut into tokens. -/
def Token.ofText? (t : Text) : Option (List Token) :=
  (Spots.ofText? t).bind fun s => Lexer.all? (s.length + 1) {} s

end Rehearsal.Yaml
