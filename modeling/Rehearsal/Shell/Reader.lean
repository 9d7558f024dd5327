/-
  Rehearsal.Shell.Reader
  ──────────────────────────────────────
  **Reading commands.**

  A script is read one line at a time, and a line that leaves something open
  takes the next one with it.  So a reader has three results: a command, a
  malformed script, or the need for more text.
-/
import Rehearsal.Shell.Syntax

namespace Rehearsal.Shell

/-- Why there is no command. -/
inductive Trouble where
  /-- More text is needed. -/
  | incomplete
  | malformed
  deriving DecidableEq, Repr

/-- Reads from a text.  The number at hand is the line at the front of the text
plus the lines that are left in it, which stays the same while it is read. -/
abbrev Parse := ReaderT Nat (StateT Text (Except Trouble))

/-- Stands in for a line that was taken out of the text. -/
def taken : Char := '\x00'

/-- How many lines a text has. -/
def lineCount (t : Text) : Nat := t.countP fun c => c = '\n' || c = taken

/-- The line at the front of the text. -/
def lineHere : Parse Nat := do return (← read) - lineCount (← get)

/-! ## §1. Characters. -/

/-- Characters that end a word. -/
def endsWord (c : Char) : Bool := " \t\n;&|<>()".toList.contains c

/-- Letters, digits and underscores. -/
def isNameChar (c : Char) : Bool := c.isAlphanum || c = '_'

/-- Parameters with a name of one sign. -/
def isSpecialParam (c : Char) : Bool := "@*#?-$!".toList.contains c

/-- The name at the front of a text; empty if there is none. -/
def nameAt (t : Text) : Text :=
  if t.head?.any Char.isDigit then [] else t.takeWhile isNameChar

/-- Drops blanks, joined lines and comments. -/
def skipBlanks : Text → Text
  | ' ' :: t => skipBlanks t
  | '\t' :: t => skipBlanks t
  | '\\' :: '\n' :: t => skipBlanks t
  | '\x00' :: t => skipBlanks t
  | '#' :: t => t.dropWhile (· ≠ '\n')
  | t => t

/-- The text up to the closing parenthesis; `quote` is the quote that is open. -/
def enclosed (depth : Nat) (quote : Option Char) : Text → Option (Text × Text)
  | [] => none
  | '\\' :: d :: t =>
      if quote = some '\'' then
        (enclosed depth quote (d :: t)).map fun (inner, rest) => ('\\' :: inner, rest)
      else (enclosed depth quote t).map fun (inner, rest) => ('\\' :: d :: inner, rest)
  | c :: t =>
      let keep (p : Option (Text × Text)) := p.map fun (inner, rest) => (c :: inner, rest)
      match quote with
      | some q => keep (enclosed depth (if c = q then none else quote) t)
      | none =>
          if c = '\'' || c = '"' then keep (enclosed depth (some c) t)
          else if c = '(' then keep (enclosed (depth + 1) none t)
          else if c = ')' then
            match depth with
            | 0 => some ([], t)
            | depth + 1 => keep (enclosed depth none t)
          else keep (enclosed depth none t)

/-- The text up to the closing backquote, without the backslashes that protect
it. -/
def backquoted (inQuotes : Bool) : Text → Option (Text × Text)
  | [] => none
  | '\\' :: d :: t =>
      (backquoted inQuotes t).map fun (inner, rest) =>
        if "`\\$".toList.contains d || (inQuotes && d = '"') then (d :: inner, rest)
        else ('\\' :: d :: inner, rest)
  | c :: t =>
      if c = '`' then some ([], t)
      else (backquoted inQuotes t).map fun (inner, rest) => (c :: inner, rest)

/-! ## §2. Words. -/

/-- Where parts of words stand. -/
inductive Setting where
  | bare
  | quotes
  /-- In the braces of a parameter. -/
  | braces (inQuotes : Bool)
  /-- In a text of its own. -/
  | text
  deriving DecidableEq, Repr

/-- The parts are protected as in double quotes. -/
def Setting.isQuoted : Setting → Bool
  | .bare => false
  | .quotes => true
  | .braces inQuotes => inQuotes
  | .text => true

/-- Puts a character in front, together with the plain or quoted text there. -/
def consChar (inQuotes : Bool) (c : Char) (parts : Word) : Word :=
  match inQuotes, parts with
  | false, .plain t :: rest => .plain (c :: t) :: rest
  | true, .quoted t :: rest => .quoted (c :: t) :: rest
  | false, parts => .plain [c] :: parts
  | true, parts => .quoted [c] :: parts

/-- The use of a parameter that a sign stands for. -/
def useOfSign? : Char → Option ParamUse
  | '-' => some .default
  | '=' => some .assign
  | '?' => some .demand
  | '+' => some .alternative
  | _ => none

/-- What follows, or the need for more text. -/
def orMore {α : Type} : Option α → Parse α
  | some a => pure a
  | none => throw .incomplete

mutual

/-- Reads the parts of a word up to its end. -/
def parts (place : Setting) : Nat → Parse Word
  | 0 => throw .malformed
  | fuel + 1 => do
      match ← get with
      | [] => if place = .text then return [] else throw .incomplete
      | c :: t =>
          let quoted := place.isQuoted
          if place = .bare && endsWord c then return []
          else if place = .quotes && c = '"' then
            set t
            return []
          else if (place = .braces true || place = .braces false) && c = '}' then
            set t
            return []
          else if c = '\\' then
            match t with
            | [] => if place = .text then return [.quoted [c]] else throw .incomplete
            | d :: rest =>
                if d = '\n' then
                  set rest
                  parts place fuel
                else if !quoted || "$`\\".toList.contains d || (d = '"' && place ≠ .text) then
                  set rest
                  return consChar true d (← parts place fuel)
                else
                  set t
                  return consChar true c (← parts place fuel)
          else if c = '\'' && !quoted then
            let inner := t.takeWhile (· ≠ '\'')
            match t.drop inner.length with
            | _ :: rest =>
                set rest
                return .quoted inner :: (← parts place fuel)
            | [] => throw .incomplete
          else if c = '"' && place ≠ .text then
            set t
            let inner ← parts .quotes fuel
            return .quoted [] :: inner ++ (← parts place fuel)
          else if c = '`' then
            let (script, rest) ← orMore (backquoted quoted t)
            set rest
            return .output quoted 1 script :: (← parts place fuel)
          else if c = '$' then
            set t
            let part? ← dollar quoted fuel
            let more ← parts place fuel
            match part? with
            | some part => return part :: more
            | none => return consChar quoted c more
          else
            set t
            return consChar quoted c (← parts place fuel)

/-- Reads what a dollar sign starts, if it starts anything. -/
def dollar (inQuotes : Bool) : Nat → Parse (Option Part)
  | 0 => throw .malformed
  | fuel + 1 => do
      match ← get with
      | [] => return none
      | '(' :: t =>
          let line ← lineHere
          let (inner, rest) ← orMore (enclosed 0 none t)
          if inner.head? = some '(' && inner.getLast? = some ')' then
            set inner.tail.dropLast
            let expression ← parts .text fuel
            set rest
            return some (.arithmetic inQuotes expression)
          else
            set rest
            return some (.output inQuotes line inner)
      | '\x7b' :: t =>
          set t
          braced inQuotes fuel
      | c :: t =>
          let name := nameAt (c :: t)
          if name ≠ [] then
            set (List.drop name.length (c :: t))
            return some (.param inQuotes name .value false [])
          else if c.isDigit || isSpecialParam c then
            set t
            return some (.param inQuotes [c] .value false [])
          else return none

/-- Reads a parameter in braces, behind the opening one. -/
def braced (inQuotes : Bool) : Nat → Parse (Option Part)
  | 0 => throw .malformed
  | fuel + 1 => do
      let t ← get
      let paramName (t : Text) : Text :=
        let name := nameAt t
        if name ≠ [] then name
        else
          let digits := t.takeWhile Char.isDigit
          if digits ≠ [] then digits else t.take 1
      let part (name : Text) (use : ParamUse) (orEmpty : Bool) (word : Word) : Option Part :=
        some (.param inQuotes name use orEmpty word)
      let counted := paramName t.tail
      if t.head? = some '#' && counted ≠ ['}'] &&
          (t.drop (1 + counted.length)).head? = some '}' then
        set (t.drop (2 + counted.length))
        return part counted .length false []
      else
        let name := paramName t
        match t.drop name.length with
        | [] => throw .incomplete
        | c :: rest =>
            let orEmpty := c = ':'
            let (sign, behind) :=
              if orEmpty then (rest.headD ' ', rest.tail) else (c, rest)
            if c = '}' then
              set rest
              return part name .value false []
            else if c = '%' || c = '#' then
              let longest := rest.head? = some c
              set (if longest then rest.tail else rest)
              let word ← parts (.braces inQuotes) fuel
              return part name (if c = '%' then .dropEnd longest else .dropStart longest) false word
            else
              match useOfSign? sign with
              | some use =>
                  set behind
                  return part name use orEmpty (← parts (.braces inQuotes) fuel)
              | none => throw .malformed

end

/-! ## §3. Tokens. -/

/-- Drops blanks in front. -/
def blanks : Parse Unit := modify skipBlanks

/-- Drops blanks and newlines in front. -/
def newlines : Nat → Parse Unit
  | 0 => return ()
  | fuel + 1 => do
      blanks
      match ← get with
      | '\n' :: t =>
          set t
          newlines fuel
      | _ => return ()

/-- Drops a sign behind blanks, if it is there. -/
def accept (sign : String) : Parse Bool := do
  blanks
  let t ← get
  if sign.toList.isPrefixOf t then
    set (t.drop sign.length)
    return true
  else return false

/-- A reserved word stands in front. -/
def isAt (word : String) (t : Text) : Bool :=
  word.toList.isPrefixOf t && (((t.drop word.length).head?).map endsWord).getD true

/-- Drops a reserved word behind blanks, if it is there. -/
def acceptWord (word : String) : Parse Bool := do
  blanks
  let t ← get
  if isAt word t then
    set (t.drop word.length)
    return true
  else return false

/-- There is no text left to be read. -/
def exhausted : Parse Bool := do
  blanks
  return (← get) = []

/-- A sign or reserved word that has to come next. -/
def expect (found : Parse Bool) : Parse Unit := do
  if !(← found) then
    if ← exhausted then throw .incomplete else throw .malformed

/-- The reserved words that end a list of commands. -/
def closers : List String := ["then", "else", "elif", "fi", "do", "done", "esac", "\x7d"]

/-- A list of commands ends here. -/
def atEnd : Parse Bool := do
  blanks
  let t ← get
  return t.head? = some ')' || (";;".toList.isPrefixOf t) || closers.any (isAt · t)

/-- The words that are no names of commands. -/
def reserved : List String := "in" :: "!" :: closers

/-- Reads a word, however it is set. -/
def word : Parse Word := do
  blanks
  let w ← parts .bare ((← get).length + 1)
  if !w.isEmpty then return w
  else if (← get).isEmpty then throw .incomplete
  else throw .malformed

/-! ## §4. Redirections. -/

/-- Cuts the lines up to the delimiter off the front; one mark is left behind for
each of them. -/
def hereLines (delimiter : Text) (stripTabs : Bool) (fuel : Nat) (t : Text) :
    Option (Text × Text) :=
  match fuel with
  | 0 => none
  | fuel + 1 =>
      let line := t.takeWhile (· ≠ '\n')
      match t.drop line.length with
      | [] => none
      | _ :: rest =>
          let line := if stripTabs then line.dropWhile (· = '\t') else line
          if line = delimiter then some ([], taken :: rest)
          else (hereLines delimiter stripTabs fuel rest).map fun (body, rest) =>
            (line ++ '\n' :: body, taken :: rest)

/-- Reads the delimiter of a here-document, and takes the document out of the
text behind the line. -/
def hereDocument (stripTabs : Bool) : Parse Word := do
  let delimiter ← word
  let literal := delimiter.any fun | .quoted _ => true | _ => false
  let name := delimiter.flatMap fun | .plain t => t | .quoted t => t | _ => []
  let t ← get
  let line := t.takeWhile (· ≠ '\n')
  let behind := t.drop (line.length + 1)
  let marks := behind.takeWhile (· = taken)
  let (body, rest) ← orMore (hereLines name stripTabs t.length (behind.drop marks.length))
  let rest := line ++ '\n' :: marks ++ rest
  if literal then
    set rest
    return [.quoted body]
  else
    set body
    let document ← parts .text (body.length + 1)
    set rest
    return document

/-- Reads a redirection, if one is there. -/
def redirect? : Parse (Option Redirect) := do
  blanks
  let t ← get
  let digits := t.takeWhile Char.isDigit
  let behind := t.drop digits.length
  let c := behind.headD ' '
  if c ≠ '<' && c ≠ '>' then return none
  else
    set behind
    let number := digits.foldl (fun n c => n * 10 + (c.toNat - '0'.toNat)) 0
    let make (standard : Nat) (kind : RedirectKind) (w : Word) : Option Redirect :=
      some ⟨if digits = [] then standard else number, kind, w⟩
    if ← accept "<<-" then return make 0 .here (← hereDocument true)
    else if ← accept "<<" then return make 0 .here (← hereDocument false)
    else if ← accept "<&" then return make 0 .duplicate (← word)
    else if ← accept "<>" then return make 0 .input (← word)
    else if ← accept "<" then return make 0 .input (← word)
    else if ← accept ">>" then return make 1 .append (← word)
    else if ← accept ">&" then return make 1 .duplicate (← word)
    else if ← accept ">|" then return make 1 .output (← word)
    else
      let _ ← accept ">"
      return make 1 .output (← word)

/-- Reads all redirections that are there. -/
def redirects : Nat → Parse (List Redirect)
  | 0 => return []
  | fuel + 1 => do
      match ← redirect? with
      | some r => return r :: (← redirects fuel)
      | none => return []

/-! ## §5. Commands. -/

/-- A simple command in the making. -/
structure Simple where
  assignments : List (Text × Word) := []
  words : List Word := []
  redirects : List Redirect := []

/-- Reads the rest of a simple command. -/
def simple (s : Simple) : Nat → Parse Simple
  | 0 => throw .malformed
  | fuel + 1 => do
      match ← redirect? with
      | some r => simple { s with redirects := s.redirects ++ [r] } fuel
      | none =>
          match ← get with
          | [] => return s
          | c :: t =>
              let name := nameAt (c :: t)
              let behind := List.drop name.length (c :: t)
              if endsWord c then return s
              else if s.words.isEmpty && name ≠ [] && behind.head? = some '=' then
                set behind.tail
                let value ← parts .bare (behind.length + 1)
                simple { s with assignments := s.assignments ++ [(name, value)] } fuel
              else simple { s with words := s.words ++ [← word] } fuel

/-- Reads the words behind `in`. -/
def wordList : Nat → Parse (List Word)
  | 0 => throw .malformed
  | fuel + 1 => do
      blanks
      match ← get with
      | [] => throw .incomplete
      | c :: _ => if endsWord c then return [] else return (← word) :: (← wordList fuel)

/-- Reads the patterns of a case, up to the parenthesis. -/
def patterns : Nat → Parse (List Word)
  | 0 => throw .malformed
  | fuel + 1 => do
      let first ← word
      if ← accept "|" then return first :: (← patterns fuel)
      else
        expect (accept ")")
        return [first]

/-- Several commands as one. -/
def Command.ofList : List Command → Command
  | [c] => c
  | cs => .sequence cs

mutual

/-- Reads commands up to the word or sign that ends the list. -/
def commands : Nat → Parse (List Command)
  | 0 => throw .malformed
  | fuel + 1 => do
      newlines fuel
      if (← exhausted) || (← atEnd) then return []
      else
        let c ← andOr fuel
        if ← atEnd then return [c]
        else
          let separated ← (do
            if ← accept ";" then return true
            else if ← accept "&" then return true
            else accept "\n")
          if separated then return c :: (← commands fuel)
          else if ← exhausted then return [c]
          else throw .malformed

/-- Reads a list of commands as one; there has to be a command. -/
def list : Nat → Parse Command
  | 0 => throw .malformed
  | fuel + 1 => do
      match ← commands fuel with
      | [] => if ← exhausted then throw .incomplete else throw .malformed
      | cs => return .ofList cs

/-- Reads pipelines joined by `&&` and `||`. -/
def andOr : Nat → Parse Command
  | 0 => throw .malformed
  | fuel + 1 => do andOrFrom (← pipeline fuel) fuel

/-- Reads on behind a pipeline. -/
def andOrFrom (first : Command) : Nat → Parse Command
  | 0 => throw .malformed
  | fuel + 1 => do
      if ← accept "&&" then
        newlines fuel
        andOrFrom (.both first (← pipeline fuel)) fuel
      else if ← accept "||" then
        newlines fuel
        andOrFrom (.either first (← pipeline fuel)) fuel
      else return first

/-- Reads commands joined by `|`. -/
def pipeline : Nat → Parse Command
  | 0 => throw .malformed
  | fuel + 1 => do
      let negated ← acceptWord "!"
      match ← stages fuel, negated with
      | [c], false => return c
      | cs, negated => return .pipeline negated cs

/-- Reads the commands of a pipeline. -/
def stages : Nat → Parse (List Command)
  | 0 => throw .malformed
  | fuel + 1 => do
      let c ← command fuel
      blanks
      match ← get with
      | '|' :: '|' :: _ => return [c]
      | '|' :: t =>
          set t
          newlines fuel
          return c :: (← stages fuel)
      | _ => return [c]

/-- Reads one command with its redirections. -/
def command : Nat → Parse Command
  | 0 => throw .malformed
  | fuel + 1 => do
      blanks
      let name := nameAt (← get)
      let behind := skipBlanks ((← get).drop name.length)
      let isDefinition := name ≠ [] && behind.head? = some '(' &&
        (skipBlanks behind.tail).head? = some ')'
      match ← compound? fuel with
      | some c =>
          match ← redirects fuel with
          | [] => return c
          | rs => return .group c rs
      | none =>
          if reserved.any (isAt · (← get)) then throw .malformed
          else if isDefinition then
            set (skipBlanks behind.tail).tail
            newlines fuel
            return .define name (← command fuel)
          else
            let line ← lineHere
            let s ← simple {} ((← get).length + 1)
            if s.assignments.isEmpty && s.words.isEmpty && s.redirects.isEmpty then
              if ← exhausted then throw .incomplete else throw .malformed
            else return .simple line s.assignments s.words s.redirects

/-- Reads a compound command, if one is there. -/
def compound? : Nat → Parse (Option Command)
  | 0 => throw .malformed
  | fuel + 1 => do
      if ← accept "(" then
        let body ← list fuel
        expect (accept ")")
        return some (.subshell body)
      else if ← acceptWord "\x7b" then
        let body ← list fuel
        expect (acceptWord "\x7d")
        return some (.group body [])
      else if ← acceptWord "if" then return some (← branches fuel)
      else if ← acceptWord "while" then return some (← loopBody false fuel)
      else if ← acceptWord "until" then return some (← loopBody true fuel)
      else if ← acceptWord "for" then
        blanks
        let name := nameAt (← get)
        if name.isEmpty then throw .malformed
        modify (List.drop name.length)
        newlines fuel
        let words ←
          if ← acceptWord "in" then pure (some (← wordList (← get).length)) else pure none
        let _ ← accept ";"
        newlines fuel
        expect (acceptWord "do")
        let body ← list fuel
        expect (acceptWord "done")
        return some (.each name words body)
      else if ← acceptWord "case" then
        let subject ← word
        newlines fuel
        expect (acceptWord "in")
        return some (.select subject (← cases fuel))
      else return none

/-- Reads a conditional behind `if` or `elif`. -/
def branches : Nat → Parse Command
  | 0 => throw .malformed
  | fuel + 1 => do
      let condition ← list fuel
      expect (acceptWord "then")
      let body ← list fuel
      if ← acceptWord "elif" then return .branch condition body (← branches fuel)
      else if ← acceptWord "else" then
        let otherwise ← list fuel
        expect (acceptWord "fi")
        return .branch condition body otherwise
      else
        expect (acceptWord "fi")
        return .branch condition body .nothing

/-- Reads a loop behind its first word. -/
def loopBody (negated : Bool) : Nat → Parse Command
  | 0 => throw .malformed
  | fuel + 1 => do
      let condition ← list fuel
      expect (acceptWord "do")
      let body ← list fuel
      expect (acceptWord "done")
      return .loop negated condition body

/-- Reads the cases up to `esac`. -/
def cases : Nat → Parse (List (List Word × Command))
  | 0 => throw .malformed
  | fuel + 1 => do
      newlines fuel
      if ← acceptWord "esac" then return []
      else
        let _ ← accept "("
        let ps ← patterns fuel
        let body := Command.ofList (← commands fuel)
        if ← accept ";;" then return (ps, body) :: (← cases fuel)
        else
          newlines fuel
          expect (acceptWord "esac")
          return [(ps, body)]

end

/-- Reads the commands of a line, and of the lines that it needs. -/
def lineCommands : Nat → Parse (List Command)
  | 0 => throw .malformed
  | fuel + 1 => do
      blanks
      match ← get with
      | [] => throw .incomplete
      | '\n' :: t =>
          set t
          return []
      | _ =>
          let c ← andOr fuel
          blanks
          match ← get with
          | [] => throw .incomplete
          | '\n' :: t =>
              set t
              return [c]
          | ';' :: t | '&' :: t =>
              set t
              return c :: (← lineCommands fuel)
          | _ => throw .malformed

/-- Reads a line, and those that it needs: its commands, the text behind it, and
the number of the line there.  The text starts on the given line. -/
def readLine (line : Nat) (t : Text) : Except Trouble (Command × Text × Nat) := do
  if !t.contains '\n' then throw .incomplete
  else
    let reading := (lineCommands (10 * t.length + 20)).run (line + lineCount t)
    let (cs, rest) ← reading.run t
    let rest := rest.dropWhile (· = taken)
    return (.ofList cs, rest, line + (lineCount t - lineCount rest))

end Rehearsal.Shell
