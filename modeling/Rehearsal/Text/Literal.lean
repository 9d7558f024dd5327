/-
  Rehearsal.Text.Literal
  ──────────────────────────────────────
  **Double-quoted literals with backslash escapes.**

  `quote` writes a text as a literal on one line; `readLiteral` reads one back
  and returns what follows it.  A control character without an escape letter
  of its own is written by its decimal code, closed by `\&` so that a digit
  after it is not taken into the number.
-/
import Rehearsal.Text.Chars

namespace Rehearsal.Text

/-! ## §1. Writing. -/

/-- The written form of one character. -/
def quoteChar (c : Char) : Text :=
  if c = '"' then ['\\', '"']
  else if c = '\\' then ['\\', '\\']
  else if c = '\n' then ['\\', 'n']
  else if c = '\r' then ['\\', 'r']
  else if c = '\t' then ['\\', 't']
  else if isControl c then '\\' :: (ofNat c.toNat ++ ['\\', '&'])
  else [c]

/-- The literal of a text. -/
def quote (t : Text) : Text := '"' :: (t.flatMap quoteChar ++ ['"'])

/-! ## §2. Reading. -/

/-- The longest run of decimal digits, read as a number after `acc`. -/
def readNumber (acc : Nat) : Text → Nat × Text
  | [] => (acc, [])
  | c :: t =>
      if c.isDigit then readNumber (acc * 10 + (c.toNat - '0'.toNat)) t else (acc, c :: t)

theorem length_readNumber (acc : Nat) (t : Text) : (readNumber acc t).2.length ≤ t.length := by
  induction t generalizing acc with
  | nil => simp [readNumber]
  | cons c t ih =>
    unfold readNumber
    split
    · have := ih (acc * 10 + (c.toNat - '0'.toNat))
      simp only [List.length_cons]; omega
    · simp

/-- The letters of escapes, and the characters that they stand for. -/
def escapes : List (Char × Char) :=
  [('"', '"'), ('\\', '\\'), ('n', '\n'), ('r', '\r'), ('t', '\t')]

/-- A character in front of what is read behind it. -/
def readBehind (c : Char) (read : Option (Text × Text)) : Option (Text × Text) :=
  read.map fun (text, after) => (c :: text, after)

/-- Reads the inside of a literal up to its closing quote; `none` if there is none.
A backslash that starts no escape stands for itself. -/
def readBody (t : Text) : Option (Text × Text) :=
  match t with
  | [] => none
  | '"' :: rest => some ([], rest)
  | '\\' :: e :: rest =>
      if e.isDigit then
        let n := readNumber 0 (e :: rest)
        readBehind (Char.ofNat n.1) (readBody n.2)
      else if e = '&' then readBody rest
      else match escapes.lookup e with
        | some c => readBehind c (readBody rest)
        | none => readBehind '\\' (readBody (e :: rest))
  | c :: rest => readBehind c (readBody rest)
termination_by t.length
decreasing_by
  · rename_i h
    simp only [readNumber, h, if_true]
    have := length_readNumber (0 * 10 + (e.toNat - '0'.toNat)) rest
    simp only [List.length_cons]; omega
  all_goals (simp only [List.length_cons]; omega)

/-- Reads a literal at the front of `t`: the text it stands for and what
follows the literal. -/
def readLiteral : Text → Option (Text × Text)
  | '"' :: t => readBody t
  | _ => none

end Rehearsal.Text
