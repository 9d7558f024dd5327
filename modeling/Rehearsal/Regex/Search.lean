/-
  Rehearsal.Regex.Search
  ──────────────────────────────────────
  **Finding a pattern in a text.**

  A pattern is unfolded into a program of single steps.  A search tries the
  places of the text from left to right and, at one place, the paths through the
  program in order of preference; no pair of step and position is entered
  twice, because a second visit cannot end better than the first.

    • `isMatch` — the pattern occurs somewhere,
    • `firstGroups` — what the first capture group holds in each of the
      successive, non-overlapping occurrences.
-/
import Rehearsal.Regex.Reader

namespace Rehearsal.Regex

/-! ## §1. Programs. -/

/-- One step of a program; numbers are the steps to go on with. -/
inductive Instr where
  | char (chars : CharSet) (next : Nat)
  /-- The first way is preferred. -/
  | split (first second : Nat)
  | save (slot next : Nat)
  | look (cond : Look) (next : Nat)
  | accept
  deriving Inhabited, Repr

/-- A program under construction. -/
abbrev Program := Array Instr

namespace Program

/-- Appends a step and gives its number. -/
def add (p : Program) (i : Instr) : Nat × Program := (p.size, p.push i)

/-- A choice between the body and going on. -/
def choice (greedy : Bool) (body next : Nat) : Instr :=
  if greedy then .split body next else .split next body

/-- Applies `f` to a step number and a program, `n` times. -/
def times (f : Nat → Program → Nat × Program) : Nat → Nat → Program → Nat × Program
  | 0, next, p => (next, p)
  | n + 1, next, p =>
      let (start, p) := f next p
      times f n start p

/-- Unfolds a pattern in front of step `next`; gives its first step. -/
def unfold : Pattern → Nat → Program → Nat × Program
  | .empty, next, p => (next, p)
  | .set s, next, p => add p (.char s next)
  | .look l, next, p => add p (.look l next)
  | .cat a b, next, p =>
      let (middle, p) := unfold b next p
      unfold a middle p
  | .alt a b, next, p =>
      let (first, p) := unfold a next p
      let (second, p) := unfold b next p
      add p (.split first second)
  | .capture k body, next, p =>
      let (stop, p) := add p (.save (2 * k + 1) next)
      let (start, p) := unfold body stop p
      add p (.save (2 * k) start)
  | .repeat body least (some most) greedy, next, p =>
      let optional (cur : Nat) (p : Program) : Nat × Program :=
        let (start, p) := unfold body cur p
        add p (choice greedy start next)
      let (start, p) := times optional (most - least) next p
      times (unfold body) least start p
  | .repeat body least none greedy, next, p =>
      -- The loop needs its own number before it exists; the step is put in afterwards.
      let (loop, p) := p.add .accept
      let (start, p) := unfold body loop p
      let p := p.set! loop (choice greedy start next)
      if least = 0 then
        -- A body that can be empty is read as "once or more, or not at all", so that
        -- an empty round leaves the loop.
        if body.nullable then add p (choice greedy start next) else (loop, p)
      else times (unfold body) (least - 1) start p

/-- The program of a pattern: its first step and its steps. -/
def ofPattern (pattern : Pattern) : Nat × Program :=
  let (accept, p) := add #[] .accept
  let (stop, p) := add p (.save 1 accept)
  let (start, p) := unfold pattern stop p
  add p (.save 0 start)

end Program

/-! ## §2. Positions. -/

/-- The character at a position. -/
def charAt? (text : Array Char) (i : Nat) : Option Char := text[i]?

/-- The character before a position. -/
def charBefore? (text : Array Char) (i : Nat) : Option Char :=
  if i = 0 then none else text[i - 1]?

/-- The character belongs to a word. -/
def isWord (ascii : Bool) : Option Char → Bool
  | none => false
  | some c => (if ascii then CharSet.asciiWord else CharSet.word).mem c

/-- The condition holds at a position. -/
def Look.holds (text : Array Char) (i : Nat) : Look → Bool
  | textStart => i == 0
  | textEnd => i == text.size
  | lineStart => i == 0 || charBefore? text i == some '\n'
  | lineEnd => i == text.size || charAt? text i == some '\n'
  | lineStartCrlf =>
      i == 0 || charBefore? text i == some '\n'
        || (charBefore? text i == some '\r' && charAt? text i != some '\n')
  | lineEndCrlf =>
      i == text.size || charAt? text i == some '\r'
        || (charAt? text i == some '\n' && charBefore? text i != some '\r')
  | wordBoundary negated ascii =>
      (isWord ascii (charBefore? text i) != isWord ascii (charAt? text i)) != negated
  | wordStart ascii => !isWord ascii (charBefore? text i) && isWord ascii (charAt? text i)
  | wordEnd ascii => isWord ascii (charBefore? text i) && !isWord ascii (charAt? text i)
  | wordStartHalf ascii => !isWord ascii (charBefore? text i)
  | wordEndHalf ascii => !isWord ascii (charAt? text i)

/-! ## §3. Searching. -/

/-- The positions saved so far, the latest first. -/
abbrev Slots := List (Nat × Nat)

/-- The latest position saved in a slot. -/
def Slots.at? (slots : Slots) (slot : Nat) : Option Nat :=
  (slots.find? (·.1 == slot)).map (·.2)

/-- A place to go on from. -/
structure Thread where
  step : Nat
  position : Nat
  slots : Slots

/-- Follows threads, the preferred one first, until one accepts. -/
def follow (program : Program) (text : Array Char) (fuel : Nat) (threads : List Thread)
    (visited : Array Bool) : Option Slots × Array Bool :=
  match fuel, threads with
  | 0, _ => (none, visited)
  | _, [] => (none, visited)
  | fuel + 1, t :: rest =>
      let key := t.step * (text.size + 1) + t.position
      -- A second visit cannot end better than the first.
      if visited.getD key true then follow program text fuel rest visited
      else
        let visited := visited.set! key true
        let goOn (threads : List Thread) : Option Slots × Array Bool :=
          follow program text fuel threads visited
        match program.getD t.step .accept with
        | .accept => (some t.slots, visited)
        | .char s next =>
            match charAt? text t.position with
            | some c =>
                if s.mem c then goOn (⟨next, t.position + 1, t.slots⟩ :: rest) else goOn rest
            | none => goOn rest
        | .split first second =>
            goOn (⟨first, t.position, t.slots⟩ :: ⟨second, t.position, t.slots⟩ :: rest)
        | .save slot next => goOn (⟨next, t.position, (slot, t.position) :: t.slots⟩ :: rest)
        | .look l next =>
            if l.holds text t.position then goOn (⟨next, t.position, t.slots⟩ :: rest)
            else goOn rest

/-- Tries `count` places from position `i` on. -/
def searchFrom (start : Nat) (program : Program) (text : Array Char) :
    Nat → Nat → Array Bool → Option Slots
  | 0, _, _ => none
  | count + 1, i, visited =>
      let fuel := 2 * program.size * (text.size + 1) + 2
      match follow program text fuel [⟨start, i, []⟩] visited with
      | (some slots, _) => some slots
      | (none, visited) => searchFrom start program text count (i + 1) visited

/-- A pattern ready to be searched for. -/
structure Matcher where
  start : Nat
  program : Program

namespace Matcher

/-- The matcher of a pattern. -/
def ofPattern (p : Pattern) : Matcher :=
  let (start, program) := Program.ofPattern p
  ⟨start, program⟩

/-- The matcher of the pattern that a text denotes. -/
def read? (t : Text) : Option Matcher := (Pattern.read? t).map ofPattern

/-- The leftmost occurrence at or after position `i`. -/
def find? (m : Matcher) (text : Array Char) (i : Nat) : Option Slots :=
  searchFrom m.start m.program text (text.size + 1 - i) i
    (Array.replicate (m.program.size * (text.size + 1)) false)

/-- The pattern occurs in the text. -/
def isMatch (m : Matcher) (text : Text) : Bool := (m.find? text.toArray 0).isSome

/-- The successive occurrences from position `i` on.  An empty occurrence does
not count at the very end of the one before it. -/
def occurrences (m : Matcher) (text : Array Char) (fuel i : Nat) (lastEnd : Option Nat) :
    List Slots :=
  match fuel with
  | 0 => []
  | fuel + 1 =>
      match m.find? text i with
      | none => []
      | some slots =>
          let lo := (slots.at? 0).getD i
          let hi := (slots.at? 1).getD i
          -- The empty occurrence right behind the last one is skipped.
          if lo = hi ∧ lastEnd = some hi then occurrences m text fuel (i + 1) none
          else slots :: occurrences m text fuel hi (some hi)

/-- What a group of an occurrence holds. -/
def groupText? (text : Array Char) (k : Nat) (slots : Slots) : Option Text := do
  let lo ← slots.at? (2 * k)
  let hi ← slots.at? (2 * k + 1)
  pure (text.extract lo hi).toList

/-- The first group of every occurrence. -/
def firstGroups (m : Matcher) (text : Text) : List (Option Text) :=
  let chars := text.toArray
  (m.occurrences chars (2 * chars.size + 3) 0 none).map (groupText? chars 1)

end Matcher

end Rehearsal.Regex
