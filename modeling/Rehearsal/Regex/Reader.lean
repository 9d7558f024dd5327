/-
  Rehearsal.Regex.Reader
  ──────────────────────────────────────
  **Reading a regular expression.**

  `Pattern.read?` gives the pattern that a text denotes, or nothing if the text
  is not one.  Look-around and back references are not part of the language.

  Modes are set by `(?flags)` up to the end of the enclosing group and by
  `(?flags:…)` inside the group: `i` case does not count, `m` line anchors, `s`
  the dot matches newlines, `R` carriage returns end lines too, `U` lazy by
  default, `u` Unicode classes (on at first), `x` blanks and comments are left
  out.
-/
import Rehearsal.Regex.Pattern

namespace Rehearsal.Regex

/-! ## §1. Modes and blanks. -/

/-- The modes in force. -/
structure Modes where
  ignoreCase : Bool := false
  multiLine : Bool := false
  dotAll : Bool := false
  crlf : Bool := false
  swapGreed : Bool := false
  unicode : Bool := true
  verbose : Bool := false
  deriving DecidableEq, Repr

namespace Modes

/-- Skips blanks and comments; `inComment` inside a comment. -/
def skipBlanks (inComment : Bool) : Text → Text
  | [] => []
  | c :: t =>
      if inComment then skipBlanks (c ≠ '\n') t
      else if Text.isBlank c then skipBlanks false t
      else if c = '#' then skipBlanks true t
      else c :: t

/-- Skips what does not count in front of the next token. -/
def skip (m : Modes) (t : Text) : Text := if m.verbose then skipBlanks false t else t

/-- A set as it is matched in these modes. -/
def fold (m : Modes) (s : CharSet) : CharSet :=
  if m.ignoreCase then (if m.unicode then s.foldCase else s.foldAscii) else s

/-- The complement among all characters, or among all bytes. -/
def negate (m : Modes) (s : CharSet) : CharSet :=
  if m.unicode then s.complement
  else s.complement.inter ⟨[(0, 0xFF)]⟩

/-- A class as a pattern; outside Unicode mode only ASCII can be matched. -/
def setPattern? (m : Modes) (s : CharSet) : Option Pattern :=
  if m.unicode || s.isAscii then some (.set s) else none

end Modes

/-! ## §2. Escapes. -/

/-- What a single token stands for. -/
inductive Token where
  /-- A character; `byte` if it was written as two hexadecimal digits. -/
  | literal (c : Char) (byte : Bool)
  | chars (s : CharSet)
  | look (cond : Look)
  | dot
  deriving Repr

/-- Characters that are special somewhere in a pattern. -/
def isMeta (c : Char) : Bool := "\\.+*?()|[]\x7b\x7d^$#&-~".toList.contains c

/-- Characters that a backslash makes literal: all of ASCII but letters, digits
and angle brackets. -/
def isEscapable (c : Char) : Bool :=
  isMeta c || (c.toNat < 0x80 && !c.isAlphanum && c ≠ '<' && c ≠ '>')

/-- The character with a code, if there is one. -/
def charOf? (n : Nat) : Option Char :=
  if n < 0xD800 ∨ (0xDFFF < n ∧ n ≤ 0x10FFFF) then some (Char.ofNat n) else none

/-- Reads `count` hexadecimal digits. -/
def hexDigits (m : Modes) (acc : Nat) : Nat → Text → Option (Nat × Text)
  | 0, t => some (acc, t)
  | count + 1, c :: t =>
      (Unicode.Ranges.hexDigit? c).bind fun d => hexDigits m (acc * 16 + d) count (m.skip t)
  | _ + 1, [] => none

/-- Reads hexadecimal digits up to a closing brace. -/
def hexBraced (m : Modes) (fuel : Nat) (digits : Nat) (acc : Nat) (t : Text) :
    Option (Nat × Text) :=
  match fuel, t with
  | 0, _ => none
  | _, [] => none
  | fuel + 1, c :: t =>
      if c = '\x7d' then if digits = 0 then none else some (acc, m.skip t)
      else (Unicode.Ranges.hexDigit? c).bind fun d =>
        hexBraced m fuel (digits + 1) (min (acc * 16 + d) 0x110000) (m.skip t)

/-- Reads a hexadecimal escape behind its letter. -/
def hexEscape? (m : Modes) (letter : Char) (t : Text) : Option (Token × Text) :=
  match m.skip t with
  | '\x7b' :: t =>
      let t := m.skip t
      (hexBraced m (t.length + 1) 0 0 t).bind fun (n, rest) =>
        (charOf? n).map fun c => (.literal c false, rest)
  | t =>
      let count := if letter = 'x' then 2 else if letter = 'u' then 4 else 8
      (hexDigits m 0 count t).bind fun (n, rest) =>
        (charOf? n).map fun c => (.literal c (letter = 'x'), rest)

/-- Cuts at the first occurrence of a character. -/
def splitAtChar (sep : Char) : Text → Option (Text × Text)
  | [] => none
  | c :: t =>
      if c = sep then some ([], t)
      else (splitAtChar sep t).map fun (a, b) => (c :: a, b)

/-- Cuts at the first `!=`. -/
def splitAtUnequal : Text → Option (Text × Text)
  | '!' :: '=' :: t => some ([], t)
  | c :: t => (splitAtUnequal t).map fun (a, b) => (c :: a, b)
  | [] => none

/-- The class of what stands between the braces of `\p{…}`. -/
def namedClass? (name : Text) : Option CharSet :=
  match splitAtUnequal name with
  | some (property, value) => (CharSet.unicodeValue? property value).map CharSet.complement
  | none => match splitAtChar ':' name with
    | some (property, value) => CharSet.unicodeValue? property value
    | none => match splitAtChar '=' name with
      | some (property, value) => CharSet.unicodeValue? property value
      | none => CharSet.unicode? name

/-- Reads a `\p` class behind its letter. -/
def unicodeEscape? (m : Modes) (negated : Bool) (t : Text) : Option (Token × Text) :=
  if m.unicode = false then none
  else
    let finish (name rest : Text) : Option (Token × Text) :=
      (namedClass? name).map fun s =>
        let s := m.fold s
        (.chars (if negated then s.complement else s), rest)
    match m.skip t with
    | [] => none
    | '\x7b' :: t =>
        (splitAtChar '\x7d' t).bind fun (name, rest) =>
          finish (if m.verbose then name.filter (!Text.isBlank ·) else name) rest
    | c :: rest => if c = '\\' then none else finish [c] (m.skip rest)

/-- The class of one of the letters `d`, `s`, `w` and their capitals. -/
def perlClass (m : Modes) (letter : Char) : CharSet :=
  let s := match lowerOf letter, m.unicode with
    | 'd', true => CharSet.digit
    | 's', true => CharSet.space
    | _, true => CharSet.word
    | 'd', false => CharSet.asciiDigit
    | 's', false => CharSet.asciiSpace
    | _, false => CharSet.asciiWord
  if letter.isUpper then m.negate s else s
where
  /-- The small form of the letter. -/
  lowerOf (c : Char) : Char := CharSet.lowerAscii c

/-- Names of word boundaries in braces. -/
def boundaryName? (m : Modes) (name : Text) : Option Look :=
  let ascii := !m.unicode
  if name = ("start" : Text) then some (.wordStart ascii)
  else if name = ("end" : Text) then some (.wordEnd ascii)
  else if name = ("start-half" : Text) then some (.wordStartHalf ascii)
  else if name = ("end-half" : Text) then some (.wordEndHalf ascii)
  else none

/-- Reads the letters and hyphens of a boundary name. -/
def boundaryLetters (m : Modes) (fuel : Nat) (t : Text) : Text × Text :=
  match fuel, t with
  | fuel + 1, c :: t =>
      if c.isAlpha || c = '-' then
        let (name, rest) := boundaryLetters m fuel (m.skip t)
        (c :: name, rest)
      else ([], c :: t)
  | _, t => ([], t)

/-- Reads a word boundary behind `\b`: a name in braces makes it a special one;
braces that start otherwise are left to be a repetition. -/
def wordBoundary? (m : Modes) (t : Text) : Option (Token × Text) :=
  let plain : Option (Token × Text) := some (.look (.wordBoundary false (!m.unicode)), t)
  match t with
  | '\x7b' :: inner =>
      match m.skip inner with
      | [] => none
      | c :: more =>
          if c.isAlpha || c = '-' then
            match boundaryLetters m (more.length + 1) (c :: more) with
            | (name, '\x7d' :: rest) => (boundaryName? m name).map fun l => (.look l, rest)
            | _ => none
          else plain
  | _ => plain

/-- Reads an escape behind its backslash. -/
def escape? (m : Modes) (t : Text) : Option (Token × Text) :=
  match t with
  | [] => none
  | c :: t =>
      if c.isDigit then none
      else if c = 'x' ∨ c = 'u' ∨ c = 'U' then hexEscape? m c t
      else if c = 'p' ∨ c = 'P' then unicodeEscape? m (c = 'P') t
      else if "dswDSW".toList.contains c then some (.chars (perlClass m c), t)
      else if isEscapable c then some (.literal c false, t)
      else match c with
        | 'a' => some (.literal '\x07' false, t)
        | 'f' => some (.literal '\x0c' false, t)
        | 't' => some (.literal '\t' false, t)
        | 'n' => some (.literal '\n' false, t)
        | 'r' => some (.literal '\r' false, t)
        | 'v' => some (.literal '\x0b' false, t)
        | 'A' => some (.look .textStart, t)
        | 'z' => some (.look .textEnd, t)
        | 'b' => wordBoundary? m t
        | 'B' => some (.look (.wordBoundary true (!m.unicode)), t)
        | '<' => some (.look (.wordStart (!m.unicode)), t)
        | '>' => some (.look (.wordEnd (!m.unicode)), t)
        | _ => none

/-- The pattern of a literal character. -/
def literal? (m : Modes) (c : Char) (byte : Bool) : Option Pattern :=
  if m.unicode then some (.set (m.fold (.single c)))
  else if c.toNat < 0x80 then some (.set (m.fold (.single c)))
  else if byte || m.ignoreCase then none
  else some (.set (.single c))

/-- The pattern of a token. -/
def Token.pattern? (m : Modes) : Token → Option Pattern
  | .literal c byte => literal? m c byte
  | .chars s => m.setPattern? s
  | .look l => some (.look l)
  | .dot =>
      if m.unicode = false then none
      else if m.dotAll then some (.set .all)
      else if m.crlf then some (.set (CharSet.ofRanges [(10, 10), (13, 13)]).complement)
      else some (.set (CharSet.single '\n').complement)

/-! ## §3. Bracketed classes. -/

/-- The operators between the parts of a class. -/
inductive SetOp where
  | inter
  | diff
  | symmDiff

/-- Applies an operator whose left side was read before. -/
def applyOp (m : Modes) (before : Option (SetOp × CharSet)) (right : CharSet) : CharSet :=
  match before with
  | none => right
  | some (op, left) =>
      let left := m.fold left
      let right := m.fold right
      match op with
      | .inter => left.inter right
      | .diff => left.diff right
      | .symmDiff => left.symmDiff right

/-- A token as a member of a class. -/
def memberSet? (m : Modes) : Token → Option CharSet
  | .literal c byte =>
      if m.unicode = false && 0x80 ≤ c.toNat && !byte then none else some (.single c)
  | .chars s => some s
  | _ => none

/-- Reads one character or escape in a class. -/
def classToken? (m : Modes) : Text → Option (Token × Text)
  | [] => none
  | '\\' :: t => escape? m t
  | c :: t => some (.literal c false, t)

/-- Reads one member of a class: a token or a range. -/
def classMember? (m : Modes) (t : Text) : Option (CharSet × Text) := do
  let (first, t) ← classToken? m t
  let t := m.skip t
  match t with
  | [] => none
  | '-' :: more =>
      let behind := m.skip more
      if behind.head? = some ']' ∨ behind.head? = some '-' then
        pure (← memberSet? m first, t)
      else if behind = [] then none
      else
        let (second, t) ← classToken? m behind
        match first, second with
        | .literal a _, .literal b _ =>
            let _ ← memberSet? m first
            let _ ← memberSet? m second
            if a.toNat ≤ b.toNat then pure (⟨[(a.toNat, b.toNat)]⟩, t) else none
        | _, _ => none
  | _ => pure (← memberSet? m first, t)

/-- Reads `[:name:]` behind its first bracket. -/
def asciiClass? (m : Modes) (t : Text) : Option (CharSet × Text) :=
  match t with
  | ':' :: t =>
      let (negated, t) := match t with
        | '^' :: t => (true, t)
        | t => (false, t)
      match splitAtChar ':' t with
      | some (name, ']' :: rest) =>
          (CharSet.ascii? name).map fun s => (if negated then m.negate s else s, rest)
      | _ => none
  | _ => none

/-- Skips hyphens at the start of a class, and counts them. -/
def leadingHyphens (m : Modes) (fuel : Nat) (t : Text) : Nat × Text :=
  match fuel, t with
  | fuel + 1, '-' :: t =>
      let (n, rest) := leadingHyphens m fuel (m.skip t)
      (n + 1, rest)
  | _, t => (0, t)

/-- Reads a class behind its opening bracket up to and with the closing one;
gives the class, how deep it is nested, and the rest. -/
def classBody? (m : Modes) (fuel : Nat) (t : Text) : Option (CharSet × Nat × Text) :=
  match fuel with
  | 0 => none
  | fuel + 1 =>
      let t := m.skip t
      let (negated, t) := match t with
        | '^' :: t => (true, m.skip t)
        | t => (false, t)
      let (hyphens, t) := leadingHyphens m t.length t
      let start : CharSet := if hyphens = 0 then .empty else .single '-'
      let (start, t) := match hyphens, t with
        | 0, ']' :: t => (CharSet.single ']', m.skip t)
        | _, t => (start, t)
      (members fuel none start 0 t).map fun (s, depth, rest) =>
        let s := m.fold s
        (if negated then m.negate s else s, depth + 1, rest)
where
  /-- Reads the members after those in `sofar`. -/
  members (fuel : Nat) (before : Option (SetOp × CharSet)) (sofar : CharSet) (depth : Nat)
      (t : Text) : Option (CharSet × Nat × Text) :=
    match fuel with
    | 0 => none
    | fuel + 1 =>
        let operator (op : SetOp) (rest : Text) : Option (CharSet × Nat × Text) :=
          members fuel (some (op, applyOp m before sofar)) .empty (depth + 1) rest
        match m.skip t with
        | [] => none
        | ']' :: rest => some (applyOp m before sofar, depth, rest)
        | '[' :: rest =>
            match asciiClass? m rest with
            | some (s, rest) => members fuel before (sofar.union s) depth rest
            | none =>
                (classBody? m fuel rest).bind fun (s, inner, rest) =>
                  members fuel before (sofar.union s) (max depth inner) rest
        | '&' :: '&' :: rest => operator .inter rest
        | '-' :: '-' :: rest => operator .diff rest
        | '~' :: '~' :: rest => operator .symmDiff rest
        | t =>
            (classMember? m t).bind fun (s, rest) =>
              members fuel before (sofar.union s) depth rest

/-! ## §4. Repetitions and groups. -/

/-- Reads a decimal number and the blanks around it. -/
def decimal? (m : Modes) (t : Text) : Option (Nat × Text) :=
  let t := t.dropWhile Text.isBlank
  let (digits, rest) := run m (t.length + 1) t
  if digits = [] then none
  else
    let n := digits.foldl (fun n c => n * 10 + (c.toNat - '0'.toNat)) 0
    if n < Nat.pow 2 32 then some (n, rest.dropWhile Text.isBlank) else none
where
  /-- The digits at the front. -/
  run (m : Modes) (fuel : Nat) (t : Text) : Text × Text :=
    match fuel, t with
    | fuel + 1, c :: t =>
        if c.isDigit then
          let (digits, rest) := run m fuel (m.skip t)
          (c :: digits, rest)
        else ([], c :: t)
    | _, t => ([], t)

/-- Reads the bounds of a counted repetition behind the brace. -/
def bounds? (m : Modes) (t : Text) : Option (Nat × Option Nat × Text) := do
  let (least, t) ← decimal? m (m.skip t)
  match t with
  | '\x7d' :: rest => pure (least, some least, rest)
  | ',' :: more =>
      match m.skip more with
      | '\x7d' :: rest => pure (least, none, rest)
      | more =>
          let (most, t) ← decimal? m more
          match t with
          | '\x7d' :: rest => if least ≤ most then pure (least, some most, rest) else none
          | _ => none
  | _ => none

/-- The mode letter of a flag. -/
def setMode? (m : Modes) (value : Bool) : Char → Option Modes
  | 'i' => some { m with ignoreCase := value }
  | 'm' => some { m with multiLine := value }
  | 's' => some { m with dotAll := value }
  | 'R' => some { m with crlf := value }
  | 'U' => some { m with swapGreed := value }
  | 'u' => some { m with unicode := value }
  | 'x' => some { m with verbose := value }
  | _ => none

/-- Reads flags up to `:` or `)`: the modes they set, how many there are, the
character that ended them, and the rest.  No flag may stand twice, and a hyphen
needs a flag behind it. -/
def flags? (m : Modes) (seen : Text) : Text → Option (Modes × Nat × Char × Text)
  | [] => none
  | c :: t =>
      if c = ':' ∨ c = ')' then
        if seen.head? = some '-' then none else some (m, seen.length, c, t)
      else if c ∈ seen then none
      else if c = '-' then flags? m ('-' :: seen) t
      else (setMode? m (!seen.contains '-') c).bind fun m => flags? m (c :: seen) t

/-- A character that a capture name can hold. -/
def isNameChar (first : Bool) (c : Char) : Bool :=
  let alphabetic := Unicode.Ranges.mem c.toNat Unicode.Property.alphabetic
  let numeric := Unicode.Ranges.mem c.toNat Unicode.Category.decimalNumber
    || Unicode.Ranges.mem c.toNat Unicode.Category.letterNumber
    || Unicode.Ranges.mem c.toNat Unicode.Category.otherNumber
  c = '_' || alphabetic || (!first && (numeric || c = '.' || c = '[' || c = ']'))

/-- Reads a capture name and the `>` behind it. -/
def captureName? (t : Text) : Option (Text × Text) :=
  (splitAtChar '>' t).bind fun (name, rest) =>
    match name with
    | [] => none
    | c :: more =>
        if isNameChar true c && more.all (isNameChar false) then some (name, rest) else none

/-! ## §5. Patterns. -/

/-- A part of a pattern, and how deep it is nested. -/
structure Piece where
  pattern : Pattern
  depth : Nat := 0
  /-- A group of flags, which nothing can repeat. -/
  isFlags : Bool := false

/-- Where the reader stands. -/
structure Reader where
  rest : Text
  modes : Modes := {}
  /-- The number of the next capture. -/
  nextCapture : Nat := 1
  /-- The capture names so far. -/
  names : List Text := []

/-- The concatenation of pieces, the last one first. -/
def concatenate : List Piece → Piece
  | [] => { pattern := .empty }
  | [p] => p
  | ps =>
      { pattern := ps.foldl (fun tail p => .cat p.pattern tail) .empty
        depth := ps.foldl (fun d p => max d p.depth) 0 + 1 }

/-- The choice between pieces, the last one first. -/
def choose : List Piece → Piece
  | [] => { pattern := .empty }
  | [p] => p
  | last :: ps =>
      { pattern := ps.foldl (fun tail p => .alt p.pattern tail) last.pattern
        depth := (last :: ps).foldl (fun d p => max d p.depth) 0 + 1 }

/-- The last piece of a concatenation, repeated; a question mark right behind
the operator makes it lazy. -/
def repeatLast? (m : Modes) (concat : List Piece) (least : Nat) (most : Option Nat)
    (rest : Text) : Option (List Piece × Text) :=
  match concat with
  | [] => none
  | p :: before =>
      if p.isFlags then none
      else
        let (lazy', rest) := match rest with
          | '?' :: more => (true, more)
          | _ => (false, rest)
        let greedy := lazy' == m.swapGreed
        some ({ pattern := .repeat p.pattern least most greedy, depth := p.depth + 1 } :: before,
          rest)

/-- The anchors. -/
def anchor (m : Modes) (start : Bool) : Look :=
  match m.multiLine, m.crlf, start with
  | false, _, true => .textStart
  | false, _, false => .textEnd
  | true, false, true => .lineStart
  | true, false, false => .lineEnd
  | true, true, true => .lineStartCrlf
  | true, true, false => .lineEndCrlf

/-- Reads alternatives up to a closing parenthesis or the end; `concat` and
`branches` hold what was read before, the last one first. -/
def alternatives? (fuel : Nat) (r : Reader) (concat branches : List Piece) :
    Option (Piece × Reader) :=
  match fuel with
  | 0 => none
  | fuel + 1 =>
      let m := r.modes
      let continueWith (p : Piece) (r : Reader) : Option (Piece × Reader) :=
        alternatives? fuel r (p :: concat) branches
      let repeated (least : Nat) (most : Option Nat) (rest : Text) : Option (Piece × Reader) :=
        (repeatLast? m concat least most rest).bind fun (concat, rest) =>
          alternatives? fuel { r with rest := rest } concat branches
      let finish (rest : Text) : Option (Piece × Reader) :=
        some (choose (concatenate concat :: branches), { r with rest := rest })
      match m.skip r.rest with
      | [] => finish []
      | ')' :: t => finish (')' :: t)
      | '|' :: t =>
          alternatives? fuel { r with rest := t } [] (concatenate concat :: branches)
      | '?' :: t => repeated 0 (some 1) t
      | '*' :: t => repeated 0 none t
      | '+' :: t => repeated 1 none t
      | '\x7b' :: t =>
          (bounds? m t).bind fun (least, most, rest) => repeated least most (m.skip rest)
      | '[' :: t =>
          (classBody? m (t.length + 2) t).bind fun (s, depth, rest) =>
            (m.setPattern? s).bind fun p =>
              continueWith { pattern := p, depth := depth } { r with rest := rest }
      | '(' :: t =>
          let t := m.skip t
          let body (wrap : Pattern → Pattern) (inner : Reader) : Option (Piece × Reader) :=
            (alternatives? fuel inner [] []).bind fun (p, after) =>
              match after.rest with
              | ')' :: rest =>
                  continueWith { pattern := wrap p.pattern, depth := p.depth + 1 }
                    { after with rest := rest, modes := m }
              | _ => none
          let named (t : Text) : Option (Piece × Reader) :=
            (captureName? t).bind fun (name, rest) =>
              if name ∈ r.names then none
              else body (.capture r.nextCapture)
                { r with rest := rest, nextCapture := r.nextCapture + 1, names := name :: r.names }
          match t with
          | '?' :: '=' :: _ => none
          | '?' :: '!' :: _ => none
          | '?' :: '<' :: '=' :: _ => none
          | '?' :: '<' :: '!' :: _ => none
          | '?' :: 'P' :: '<' :: t => named t
          | '?' :: '<' :: t => named t
          | '?' :: t =>
              (flags? m [] t).bind fun (inner, count, stop, rest) =>
                if stop = ')' then
                  if count = 0 then none
                  else continueWith { pattern := .empty, isFlags := true }
                    { r with rest := rest, modes := inner }
                else body id { r with rest := rest, modes := inner }
          | t => body (.capture r.nextCapture)
              { r with rest := t, nextCapture := r.nextCapture + 1 }
      | '\\' :: t =>
          (escape? m t).bind fun (token, rest) =>
            (token.pattern? m).bind fun p => continueWith { pattern := p } { r with rest := rest }
      | '.' :: t =>
          (Token.dot.pattern? m).bind fun p => continueWith { pattern := p } { r with rest := t }
      | '^' :: t => continueWith { pattern := .look (anchor m true) } { r with rest := t }
      | '$' :: t => continueWith { pattern := .look (anchor m false) } { r with rest := t }
      | c :: t =>
          (literal? m c false).bind fun p => continueWith { pattern := p } { r with rest := t }

/-- How deep a pattern may be nested. -/
def greatestDepth : Nat := 250

/-- How heavy a pattern may be. -/
def greatestWeight : Nat := 800000

/-- The pattern that a text denotes. -/
def Pattern.read? (t : Text) : Option Pattern :=
  match alternatives? (t.length + 2) { rest := t } [] [] with
  | some (p, r) =>
      if r.rest = [] ∧ p.depth ≤ greatestDepth ∧ p.pattern.weight ≤ greatestWeight then
        some p.pattern
      else none
  | none => none

end Rehearsal.Regex
