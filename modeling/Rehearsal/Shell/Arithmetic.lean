/-
  Rehearsal.Shell.Arithmetic
  ──────────────────────────────────────
  **Integer expressions.**

  Numbers have 64 bits and wrap around.  An expression may set variables; it has
  no value if it is malformed or divides by zero.
-/
import Rehearsal.Text.Chars
import Rehearsal.Unicode.Ranges

namespace Rehearsal.Shell.Arithmetic

/-- The rest of an expression, and the variables. -/
structure State where
  text : Text
  vars : List (Text × Text)

/-- Evaluates from the front of an expression. -/
abbrev Eval := StateT State Option

/-- The number with the same 64 bits. -/
def wrap (n : Int) : Int := n.bmod (Nat.pow 2 64)

/-! ## §1. Numbers and signs. -/

/-- The value of digits of a radix. -/
def digits? (radix : Nat) (t : Text) : Option Int :=
  if t = [] then none
  else t.foldl (fun n c => do
    let d ← (Unicode.Ranges.hexDigit? c).filter (· < radix)
    return (← n) * radix + d) (some 0)

/-- The value of a number: decimal, hexadecimal or octal. -/
def number? : Text → Option Int
  | '0' :: 'x' :: t => digits? 16 t
  | '0' :: 'X' :: t => digits? 16 t
  | '0' :: c :: t => digits? 8 (c :: t)
  | t => digits? 10 t

/-- The value of a variable as a number; nothing counts as zero. -/
def value? (t : Text) : Option Int :=
  match Text.trim t with
  | [] => some 0
  | '-' :: t => (number? t).map fun n => wrap (-n)
  | '+' :: t => (number? t).map wrap
  | t => (number? t).map wrap

/-- Drops blanks. -/
def blanks : Eval Unit := modify fun s => { s with text := s.text.dropWhile Text.isBlank }

/-- Drops one of several signs, the first that fits, unless one of `notBefore`
follows it. -/
def sign (signs : List String) (notBefore : List Char) : Eval (Option String) := do
  blanks
  let t := (← get).text
  let fits (s : String) : Bool :=
    s.toList.isPrefixOf t && !((t.drop s.length).head?.any notBefore.contains)
  match signs.find? fits with
  | some s =>
      modify fun st => { st with text := st.text.drop s.length }
      return some s
  | none => return none

/-! ## §2. Operators. -/

/-- Truth values are numbers. -/
def ofBool (b : Bool) : Int := if b then 1 else 0

/-- The value of two numbers under a sign. -/
def combine? (s : String) (a b : Int) : Option Int :=
  match s with
  | "+" => some (wrap (a + b))
  | "-" => some (wrap (a - b))
  | "*" => some (wrap (a * b))
  | "/" => if b = 0 then none else some (wrap (a.tdiv b))
  | "%" => if b = 0 then none else some (wrap (a.tmod b))
  | "<<" => some (wrap (a * Int.ofNat (Nat.pow 2 (b % 64).toNat)))
  | ">>" => some (a.fdiv (Int.ofNat (Nat.pow 2 (b % 64).toNat)))
  | "<" => some (ofBool (a < b))
  | "<=" => some (ofBool (a ≤ b))
  | ">" => some (ofBool (b < a))
  | ">=" => some (ofBool (b ≤ a))
  | "==" => some (ofBool (a = b))
  | "!=" => some (ofBool (a ≠ b))
  | "&" => some ((BitVec.ofInt 64 a &&& BitVec.ofInt 64 b).toInt)
  | "^" => some ((BitVec.ofInt 64 a ^^^ BitVec.ofInt 64 b).toInt)
  | "|" => some ((BitVec.ofInt 64 a ||| BitVec.ofInt 64 b).toInt)
  | "&&" => some (ofBool (a ≠ 0 ∧ b ≠ 0))
  | "||" => some (ofBool (a ≠ 0 ∨ b ≠ 0))
  | _ => none

/-- The signs between two operands, those that bind the weakest first, each with
the characters that may not follow. -/
def levels : List (List String × List Char) :=
  [ (["||"], [])
  , (["&&"], [])
  , (["|"], ['|', '='])
  , (["^"], ['='])
  , (["&"], ['&', '='])
  , (["==", "!="], [])
  , (["<=", ">=", "<", ">"], ['<', '>'])
  , (["<<", ">>"], ['='])
  , (["+", "-"], ['='])
  , (["*", "/", "%"], ['=']) ]

/-- The signs that set a variable. -/
def assignments : List String :=
  ["=", "+=", "-=", "*=", "/=", "%=", "<<=", ">>=", "&=", "^=", "|="]

/-- The characters of a name. -/
def isNameChar (c : Char) : Bool := c.isAlphanum || c = '_'

/-- The decimal form of a number. -/
def shown (n : Int) : Text :=
  if n < 0 then '-' :: Text.ofNat n.natAbs else Text.ofNat n.natAbs

/-- Sets a variable. -/
def assign (name : Text) (n : Int) : Eval Int := do
  modify fun s => { s with vars := (name, shown n) :: s.vars.filter fun v => v.1 ≠ name }
  return n

/-- The number that a variable holds. -/
def valueOf (name : Text) : Eval Int := do
  match value? (((← get).vars.lookup name).getD []) with
  | some n => return n
  | none => failure

mutual

/-- Evaluates a whole expression. -/
def expression : Nat → Eval Int
  | 0 => failure
  | fuel + 1 => do
      let condition ← binary levels fuel
      match ← sign ["?"] [] with
      | none => return condition
      | some _ =>
          let yes ← expression fuel
          match ← sign [":"] [] with
          | none => failure
          | some _ =>
              let no ← expression fuel
              return if condition ≠ 0 then yes else no

/-- Evaluates operands joined by the signs of some levels. -/
def binary : List (List String × List Char) → Nat → Eval Int
  | _, 0 => failure
  | [], fuel + 1 => operand fuel
  | level :: rest, fuel + 1 => do
      let first ← binary rest fuel
      chain level rest first fuel

/-- Goes on behind a first operand. -/
def chain (level : List String × List Char) (rest : List (List String × List Char))
    (first : Int) : Nat → Eval Int
  | 0 => failure
  | fuel + 1 => do
      match ← sign level.1 level.2 with
      | none => return first
      | some s =>
          let second ← binary rest fuel
          match combine? s first second with
          | some n => chain level rest n fuel
          | none => failure

/-- Evaluates an operand. -/
def operand : Nat → Eval Int
  | 0 => failure
  | fuel + 1 => do
      match ← sign ["(", "-", "+", "!", "~"] [] with
      | some "(" =>
          let n ← expression fuel
          match ← sign [")"] [] with
          | some _ => return n
          | none => failure
      | some "-" => return wrap (-(← operand fuel))
      | some "+" => operand fuel
      | some "!" => return ofBool ((← operand fuel) = 0)
      | some _ => return -(← operand fuel) - 1
      | none =>
          let name := (← get).text.takeWhile isNameChar
          modify fun s => { s with text := s.text.drop name.length }
          if name = [] then failure
          else if name.head?.any Char.isDigit then
            match number? name with
            | some n => return wrap n
            | none => failure
          else
            match ← sign assignments.reverse [] with
            | some "=" =>
                if (← get).text.head? = some '=' then
                  modify fun s => { s with text := '=' :: s.text }
                  valueOf name
                else assign name (← expression fuel)
            | some s =>
                let old ← valueOf name
                let new ← expression fuel
                match combine? (String.ofList s.toList.dropLast) old new with
                | some n => assign name n
                | none => failure
            | none => valueOf name

end

/-- The value of an expression, and the variables after it. -/
def evaluate? (vars : List (Text × Text)) (t : Text) : Option (Int × List (Text × Text)) :=
  if t.all Text.isBlank then some (0, vars)
  else do
    let (n, s) ← (expression (20 * t.length + 40)).run ⟨t, vars⟩
    if s.text.all Text.isBlank then return (n, s.vars) else none

end Rehearsal.Shell.Arithmetic
