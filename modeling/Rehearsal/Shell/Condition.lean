/-
  Rehearsal.Shell.Condition
  ──────────────────────────────────────
  **Conditions as `test` checks them.**

  The words of a condition are operators or operands, and which one a word is may
  depend on the words behind it.  A condition of three words with a binary
  operator in the middle always means this operator.

  Every reader gets the words from the one at hand on, and gives them back from
  the last one that it used.
-/
import Rehearsal.Text.Chars

namespace Rehearsal.Shell.Condition

/-- What a condition may ask about paths. -/
structure Paths where
  isFile : Text → Bool
  isDirectory : Text → Bool

/-! ## §1. Words. -/

/-- Operators with one operand. -/
def unaries : List Text :=
  ["-r", "-w", "-x", "-e", "-f", "-d", "-c", "-b", "-p", "-u", "-g", "-k", "-s", "-t", "-z", "-n",
    "-h", "-O", "-G", "-L", "-S"]

/-- Operators with two operands. -/
def binaries : List Text :=
  ["=", "!=", "<", ">", "-eq", "-ne", "-ge", "-gt", "-le", "-lt", "-nt", "-ot", "-ef"]

/-- Operators that join conditions. -/
def joiners : List Text := ["!", "-a", "-o", "(", ")"]

/-- What a word is. -/
inductive Role where
  /-- There is no word. -/
  | ending
  | operand
  | operator (sign : Text)
  deriving DecidableEq, Repr

/-- The word at hand, a unary operator, is an operand because of those behind it. -/
def isOperand : List Text → Bool
  | [] => true
  | [_] => false
  | next :: _ :: _ => binaries.contains next

/-- What the word at hand is. -/
def role : List Text → Role
  | [] => .ending
  | w :: rest =>
      if unaries.contains w then if isOperand rest then .operand else .operator w
      else if w = ['('] && rest.isEmpty then .operand
      else if binaries.contains w || joiners.contains w then .operator w
      else .operand

/-! ## §2. Operators. -/

/-- Why a condition cannot be checked, with the word that is to blame. -/
def blame (word message : Text) : Text :=
  if word = [] then message else word ++ (": " : Text) ++ message

/-- The value of a decimal number of 64 bits between blanks. -/
def integer? (t : Text) : Option Int :=
  let t := Text.trim t
  let digits := if t.head? = some '-' || t.head? = some '+' then t.tail else t
  if digits.isEmpty || !digits.all Char.isDigit then none
  else
    let n : Nat := digits.foldl (fun n c => n * 10 + (c.toNat - '0'.toNat)) 0
    let value : Int := if t.head? = some '-' then -n else n
    if value.bmod (Nat.pow 2 64) = value then some value else none

/-- The number that a word is. -/
def number (t : Text) : Except Text Int :=
  match integer? t with
  | some n => .ok n
  | none => .error (("Illegal number: " : Text) ++ t)

/-- A condition about one operand. -/
def unary (paths : Paths) (sign operand : Text) : Bool :=
  let isThere := paths.isFile operand || paths.isDirectory operand
  match String.ofList sign with
  | "-n" => operand ≠ []
  | "-z" => operand = []
  | "-e" | "-r" | "-w" => isThere
  | "-f" | "-s" => paths.isFile operand
  | "-d" | "-x" => paths.isDirectory operand
  | _ => false

/-- A condition about two operands. -/
def binary (sign first second : Text) : Except Text Bool :=
  let numbers (p : Int → Int → Bool) : Except Text Bool := do
    return p (← number first) (← number second)
  match String.ofList sign with
  | "=" => .ok (first = second)
  | "!=" => .ok (first ≠ second)
  | "<" => .ok (String.ofList first < String.ofList second)
  | ">" => .ok (String.ofList second < String.ofList first)
  | "-eq" => numbers (· == ·)
  | "-ne" => numbers (· != ·)
  | "-lt" => numbers (· < ·)
  | "-le" => numbers (· ≤ ·)
  | "-gt" => numbers (· > ·)
  | "-ge" => numbers (· ≥ ·)
  | _ => .ok false

/-! ## §3. Reading. -/

/-- The value of a condition, and the words from the last one used on. -/
abbrev Reading := Except Text (Bool × List Text)

/-- Reads an operator with its operands, or an operand alone. -/
def simple (paths : Paths) (r : Role) (words : List Text) : Reading :=
  let unary? : Option Text := match r with
    | .operator o => if unaries.contains o then some o else none
    | _ => none
  match unary?, words with
  | _, [] => .ok (false, [])
  | some o, _ :: rest =>
      match rest with
      | [] => .error (blame o "argument expected")
      | operand :: _ => .ok (unary paths o operand, rest)
  | none, first :: rest =>
      match role rest, rest with
      | .operator o, _ :: behind =>
          if binaries.contains o then
            match behind with
            | [] => .error (blame o "argument expected")
            | second :: _ => do return (← binary o first second, behind)
          else .ok (first ≠ [], words)
      | _, _ => .ok (first ≠ [], words)

mutual

/-- Reads conditions joined by `-o`. -/
def disjunction (paths : Paths) : Nat → Role → List Text → Reading
  | 0, _, words => .ok (false, words)
  | fuel + 1, r, words => do
      let (value, last) ← conjunction paths fuel r words
      if role last.tail = .operator "-o" then
        let (more, last) ← disjunction paths fuel (role last.tail.tail) last.tail.tail
        return (value || more, last)
      else return (value, last)

/-- Reads conditions joined by `-a`. -/
def conjunction (paths : Paths) : Nat → Role → List Text → Reading
  | 0, _, words => .ok (false, words)
  | fuel + 1, r, words => do
      let (value, last) ← negation paths fuel r words
      if role last.tail = .operator "-a" then
        let (more, last) ← conjunction paths fuel (role last.tail.tail) last.tail.tail
        return (value && more, last)
      else return (value, last)

/-- Reads a condition behind any number of exclamation marks. -/
def negation (paths : Paths) : Nat → Role → List Text → Reading
  | 0, _, words => .ok (false, words)
  | fuel + 1, r, words =>
      if r = .operator ['!'] then do
        let next := role words.tail
        let behind := if next = .ending then words else words.tail
        let (value, last) ← negation paths fuel next behind
        return (!value, last)
      else primary paths fuel r words

/-- Reads a condition in parentheses, or a simple one. -/
def primary (paths : Paths) : Nat → Role → List Text → Reading
  | 0, _, words => .ok (false, words)
  | fuel + 1, r, words =>
      if r = .ending then .ok (false, words)
      else if r = .operator ['('] then
        let inner := words.tail
        if role inner = .operator [')'] then .ok (false, inner)
        else do
          let (value, last) ← disjunction paths fuel (role inner) inner
          if role last.tail = .operator [')'] then return (value, last.tail)
          else .error "closing paren expected"
      else simple paths r words

end

/-- The value of a whole condition whose first word has a role. -/
def whole (paths : Paths) (r : Role) (words : List Text) : Except Text Bool := do
  let (value, last) ← disjunction paths (8 * words.length + 8) r words
  match last with
  | w :: _ :: _ => .error (blame w "unexpected operator")
  | _ => return value

/-- Checks a condition; an error says why it cannot be checked. -/
def check (paths : Paths) : List Text → Except Text Bool
  | [] => .ok false
  | first :: rest =>
      let words := first :: rest
      let short := rest.length = 2 || rest.length = 3
      if rest.length = 2 && rest.head?.any binaries.contains then whole paths .operand words
      else if short && first = ['('] && rest.getLast? = some [')'] then
        whole paths (role rest.dropLast) rest.dropLast
      else if short && first = ['!'] then (check paths rest).map (!·)
      else whole paths (role words) words

end Rehearsal.Shell.Condition
