/-
  Rehearsal.Yaml.Scalar
  ──────────────────────────────────────
  **The written forms of a scalar.**

    • `plain?` — without quotes, over several lines if they are indented,
    • `quoted?` — in single or double quotes, with their escapes,
    • `block?` — the lines under `|` or `>`.

  Inside a plain or quoted scalar a single line break is a space, and each of
  several further ones a newline.
-/
import Rehearsal.Yaml.Spot
import Rehearsal.Unicode.Ranges

namespace Rehearsal.Yaml

/-- How a scalar is written. -/
inductive Style where
  | plain
  | singleQuoted
  | doubleQuoted
  | literal
  | folded
  deriving DecidableEq, Repr

/-! ## §1. Folding. -/

/-- Blanks that were read but not yet written. -/
structure Blanks where
  /-- Spaces and tabs on the line of the last character. -/
  spaces : Text := []
  /-- A line break was read. -/
  broken : Bool := false
  /-- The first line break. -/
  first : Text := []
  /-- The further ones. -/
  more : Text := []

namespace Blanks

/-- What the line breaks read as. -/
def folded (b : Blanks) : Text :=
  if b.first.head? = some '\n' then (if b.more = [] then [' '] else b.more)
  else b.first ++ b.more

/-- What the blanks read as in front of a further character. -/
def text (b : Blanks) : Text := if b.broken then b.folded else b.spaces

end Blanks

/-- Reads blanks; in a plain scalar of a block a tab may not stand left of
column `indent`. -/
def readBlanks (indent : Option Nat) (fuel : Nat) (b : Blanks) (s : Spots) :
    Option (Blanks × Spots) :=
  match fuel with
  | 0 => some (b, s)
  | fuel + 1 =>
      let c := s.char
      if isSpace c then
        if b.broken && c = '\t' && indent.any (s.column < ·) then none
        else if b.broken then readBlanks indent fuel b s.tail
        else readBlanks indent fuel { b with spaces := b.spaces ++ [c] } s.tail
      else if isBreak c then
        if b.broken then
          readBlanks indent fuel { b with more := b.more ++ s.breakText } s.skipBreak
        else readBlanks indent fuel { broken := true, first := s.breakText } s.skipBreak
      else some (b, s)

/-! ## §2. Plain scalars. -/

/-- Indicators that end a plain scalar inside brackets. -/
def isFlowIndicator (c : Char) : Bool := ",[]\x7b\x7d".toList.contains c

/-- Reads the characters of a plain scalar up to a blank or an indicator. -/
def plainRun? (inFlow : Bool) : Spots → Option (Text × Spots)
  | [] => some ([], [])
  | x :: rest =>
      let c := x.char
      let next := Spots.char rest
      if isGap c then some ([], x :: rest)
      else if inFlow && c = ':' && (isFlowIndicator next || next = '?') then none
      else if (c = ':' && isGap next) || (inFlow && isFlowIndicator c) then some ([], x :: rest)
      else (plainRun? inFlow rest).map fun (t, rest) => (c :: t, rest)

/-- Reads a plain scalar on; `indent` is the column that further lines need.
Also tells whether it ended behind a line break. -/
def plainFrom? (inFlow : Bool) (indent : Nat) (fuel : Nat) (blanks : Blanks) (s : Spots) :
    Option (Text × Bool × Spots) :=
  match fuel with
  | 0 => none
  | fuel + 1 =>
      if s.atAnyMarker || s.char = '#' then some ([], blanks.broken, s)
      else do
        let (run, behind) ← plainRun? inFlow s
        let text := if run = [] then [] else blanks.text ++ run
        let blanks : Blanks := if run = [] then blanks else {}
        let c := behind.char
        if !(isSpace c || isBreak c) then pure (text, blanks.broken, behind)
        else
          let (blanks, behind) ← readBlanks (some indent) (behind.length + 1) blanks behind
          if !inFlow && behind.column < indent then pure (text, blanks.broken, behind)
          else
            let (more, broken, rest) ← plainFrom? inFlow indent fuel blanks behind
            pure (text ++ more, broken, rest)

/-- Reads a plain scalar. -/
def plain? (inFlow : Bool) (indent : Nat) (s : Spots) : Option (Text × Bool × Spots) :=
  plainFrom? inFlow indent (s.length + 1) {} s

/-! ## §3. Quoted scalars. -/

/-- The character of a one-letter escape. -/
def escapeChar? : Char → Option Char
  | '0' => some '\x00'
  | 'a' => some '\x07'
  | 'b' => some '\x08'
  | 't' => some '\t'
  | '\t' => some '\t'
  | 'n' => some '\n'
  | 'v' => some '\x0b'
  | 'f' => some '\x0c'
  | 'r' => some '\r'
  | 'e' => some '\x1b'
  | ' ' => some ' '
  | '"' => some '"'
  | '/' => some '/'
  | '\\' => some '\\'
  | 'N' => some '\u0085'
  | '_' => some '\u00a0'
  | 'L' => some '\u2028'
  | 'P' => some '\u2029'
  | _ => none

/-- The value of `count` hexadecimal digits. -/
def hexValue? (acc : Nat) : Nat → Spots → Option (Nat × Spots)
  | 0, s => some (acc, s)
  | count + 1, x :: rest =>
      (Unicode.Ranges.hexDigit? x.char).bind fun d => hexValue? (acc * 16 + d) count rest
  | _ + 1, [] => none

/-- Reads an escape behind its backslash. -/
def escape? (s : Spots) : Option (Char × Spots) :=
  let hex (count : Nat) : Option (Char × Spots) :=
    (hexValue? 0 count s.tail).bind fun (n, rest) =>
      if (0xD800 ≤ n ∧ n ≤ 0xDFFF) ∨ 0x10FFFF < n then none else some (Char.ofNat n, rest)
  match s.char with
  | 'x' => hex 2
  | 'u' => hex 4
  | 'U' => hex 8
  | c => (escapeChar? c).map fun c => (c, s.tail)

/-- Reads a quoted scalar up to and with its closing quote. -/
def quotedFrom? (single : Bool) (fuel : Nat) (s : Spots) : Option (Text × Spots) :=
  match fuel with
  | 0 => none
  | fuel + 1 =>
      let c := s.char
      let quote : Char := if single then '\'' else '"'
      let after (t : Text) (rest : Spots) : Option (Text × Spots) :=
        (quotedFrom? single fuel rest).map fun (more, rest) => (t ++ more, rest)
      let blanks (b : Blanks) (rest : Spots) : Option (Text × Spots) :=
        (readBlanks none (rest.length + 1) b rest).bind fun (b, rest) => after b.text rest
      if s.atAnyMarker || c = endChar then none
      else if isSpace c || isBreak c then blanks {} s
      else if single && c = quote && s.charAt 1 = quote then after [quote] (s.drop 2)
      else if c = quote then some ([], s.tail)
      else if !single && c = '\\' then
        if isBreak (s.charAt 1) then blanks { broken := true } (Spots.skipBreak s.tail)
        else (escape? s.tail).bind fun (e, rest) => after [e] rest
      else after [c] s.tail

/-- Reads a quoted scalar behind its opening quote. -/
def quoted? (single : Bool) (s : Spots) : Option (Text × Spots) :=
  quotedFrom? single (s.length + 1) s

/-! ## §4. Block scalars. -/

/-- What becomes of the line breaks at the end. -/
inductive Chomp where
  | clip
  | strip
  | keep
  deriving DecidableEq, Repr

/-- The chomping of an indicator. -/
def Chomp.ofChar? : Char → Option Chomp
  | '+' => some .keep
  | '-' => some .strip
  | _ => none

/-- Reads the indicators behind `|` or `>`: chomping and indentation, in either
order. -/
def blockHeader? (s : Spots) : Option (Chomp × Nat × Spots) :=
  let digit (s : Spots) : Option (Nat × Spots) :=
    let c := s.char
    if c = '0' then none
    else if c.isDigit then some (c.toNat - '0'.toNat, s.tail) else some (0, s)
  match Chomp.ofChar? s.char with
  | some chomp => (digit s.tail).map fun (n, rest) => (chomp, n, rest)
  | none => (digit s).map fun (n, rest) =>
      if n = 0 then (.clip, 0, rest)
      else match Chomp.ofChar? rest.char with
        | some chomp => (chomp, n, rest.tail)
        | none => (.clip, n, rest)

/-- Eats indentation and empty lines; gives the breaks, the greatest column seen
and the rest.  An `indent` of zero is not yet known. -/
def blockBreaks? (indent : Nat) (fuel : Nat) (widest : Nat) (breaks : Text) (s : Spots) :
    Option (Text × Nat × Spots) :=
  match fuel with
  | 0 => none
  | fuel + 1 =>
      let c := s.char
      let inside := indent = 0 || s.column < indent
      if inside && c = ' ' then blockBreaks? indent fuel widest breaks s.tail
      else
        let widest := max widest s.column
        if inside && c = '\t' then none
        else if isBreak c then blockBreaks? indent fuel widest (breaks ++ s.breakText) s.skipBreak
        else some (breaks, widest, s)

/-- Reads the lines of a block scalar: `first` is the break behind the last line
and `more` the breaks after it, `blankStart` tells whether that line started
with a blank. -/
def blockLines? (literal : Bool) (indent : Nat) (chomp : Chomp) (fuel : Nat)
    (first more : Text) (blankStart : Bool) (s : Spots) : Option (Text × Spots) :=
  match fuel with
  | 0 => none
  | fuel + 1 =>
      if s.column = indent && s.char ≠ endChar then do
        let blank := isSpace s.char
        let joint :=
          if !literal && first.head? = some '\n' && !blankStart && !blank then
            (if more = [] then [' '] else []) ++ more
          else first ++ more
        let (line, rest) := s.takeWhile (!isBreakOrEnd ·)
        let first := rest.breakText
        let rest := rest.skipBreak
        let (more, _, rest) ← blockBreaks? indent (rest.length + 1) 0 [] rest
        let (tail, rest) ← blockLines? literal indent chomp fuel first more blank rest
        pure (joint ++ line ++ tail, rest)
      else
        pure ((if chomp = .strip then [] else first) ++ (if chomp = .keep then more else []), s)

/-- Reads a block scalar behind `|` or `>`; `indent` is the column of the block
it stands in, if it stands in one. -/
def block? (literal : Bool) (indent : Option Nat) (s : Spots) : Option (Text × Spots) := do
  let (chomp, increment, s) ← blockHeader? s
  let s := s.skipWhile isSpace
  let s := if s.char = '#' then s.skipWhile (!isBreakOrEnd ·) else s
  if !isBreakOrEnd s.char then none
  else
    let s := s.skipBreak
    let known := if increment = 0 then 0 else indent.getD 0 + increment
    let (breaks, widest, s) ← blockBreaks? known (s.length + 1) 0 [] s
    let column :=
      if known = 0 then
        max (max widest (match indent with | some i => i + 1 | none => 0)) 1
      else known
    blockLines? literal column chomp (s.length + 1) [] breaks false s

end Rehearsal.Yaml
