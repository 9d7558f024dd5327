/-
  Rehearsal.Yaml.Value
  ──────────────────────────────────────
  **What a scalar stands for.**

  A plain scalar without a tag may be the null value, a truth value, an integer
  or a real number; any other scalar is text.  Integers have 64 bits, and one
  that needs more, but fits in 128, is refused.
-/
import Rehearsal.Text.Chars
import Rehearsal.Unicode.Ranges
import Rehearsal.Yaml.Scalar

namespace Rehearsal.Yaml

/-- A typed value. -/
inductive Value where
  | null
  | truth (b : Bool)
  | natural (n : Nat)
  /-- A number with a minus sign. -/
  | negative (magnitude : Nat)
  | real
  | text (t : Text)
  | list (items : List Value)
  | map (entries : List (Value × Value))
  deriving Repr

/-! ## §1. Integers. -/

/-- The value of a digit below `radix`. -/
def digit? (radix : Nat) (c : Char) : Option Nat :=
  (Unicode.Ranges.hexDigit? c).filter (· < radix)

/-- The value of digits; at least one is needed. -/
def digits? (radix : Nat) : Text → Option Nat
  | [] => none
  | c :: t => t.foldl (fun n c => do return (← n) * radix + (← digit? radix c)) (digit? radix c)

/-- Several decimal digits of which the first one is a zero. -/
def hasIdleZero (t : Text) : Bool := t.length > 1 && t.head? = some '0' && t.all Char.isDigit

/-- The value of an integer without sign: decimal, or with `0x`, `0o` or `0b`. -/
def magnitude? : Text → Option Nat
  | '0' :: 'x' :: t => digits? 16 t
  | '0' :: 'o' :: t => digits? 8 t
  | '0' :: 'b' :: t => digits? 2 t
  | t => if hasIdleZero t then none else digits? 10 t

/-- The value of an integer without a minus sign. -/
def natural? : Text → Option Nat
  | '+' :: t => magnitude? t
  | t => magnitude? t

/-- The integer that a text is; `some none` if it is out of range, and `none` if
the text is no integer. -/
def integer? (t : Text) : Option (Option Value) :=
  match t with
  | '-' :: digits =>
      (magnitude? digits).bind fun n =>
        if n ≤ Nat.pow 2 63 then some (some (.negative n))
        else if n ≤ Nat.pow 2 127 then some none else none
  | t =>
      (natural? t).bind fun n =>
        if n < Nat.pow 2 64 then some (some (.natural n))
        else if n < Nat.pow 2 128 then some none else none

/-! ## §2. Real numbers. -/

/-- The exponent behind a mantissa, if what is there is an exponent or nothing. -/
def exponent? : Text → Option Int
  | [] => some 0
  | e :: t =>
      if e = 'e' || e = 'E' then
        match t with
        | '-' :: t => (digits? 10 t).map fun n => - (n : Int)
        | '+' :: t => (digits? 10 t).map fun n => (n : Int)
        | t => (digits? 10 t).map fun n => (n : Int)
      else none

/-- `n · 10^e` rounds to a finite number of 64 bits. -/
def isFinite (n : Nat) (e : Int) : Bool :=
  let length : Int := (Text.ofNat n).length
  if n = 0 then true
  else if length + e > 400 then false
  else if length + e < 0 then true
  else
    let bound := Nat.pow 2 1024 - Nat.pow 2 970
    if e ≥ 0 then decide (n * Nat.pow 10 e.toNat < bound)
    else decide (n < bound * Nat.pow 10 (-e).toNat)

/-- A decimal number with an optional fraction and exponent, finite in 64 bits. -/
def isDecimal (t : Text) : Bool :=
  let t := if t.head? = some '-' then t.tail else t
  let whole := t.takeWhile Char.isDigit
  let rest := t.dropWhile Char.isDigit
  let (fraction, rest) :=
    match rest with
    | '.' :: rest => (rest.takeWhile Char.isDigit, rest.dropWhile Char.isDigit)
    | rest => ([], rest)
  match digits? 10 (whole ++ fraction), exponent? rest with
  | some n, some e => isFinite n (e - fraction.length)
  | _, _ => false

/-- The text is a real number. -/
def isReal (t : Text) : Bool :=
  let unsigned := if t.head? = some '+' then t.tail else t
  let among (names : List String) (t : Text) : Bool := names.any fun n => n.toList = t
  if t.head? = some '+' && (unsigned.head? = some '+' || unsigned.head? = some '-') then false
  else
    among [".inf", ".Inf", ".INF"] unsigned || among ["-.inf", "-.Inf", "-.INF"] t
      || among [".nan", ".NaN", ".NAN"] t || isDecimal unsigned

/-! ## §3. Scalars. -/

/-- The text is a spelling of null. -/
def isNull (t : Text) : Bool := ["null", "Null", "NULL", "~"].any fun n => n.toList = t

/-- The truth value that a text is. -/
def truth? (t : Text) : Option Bool :=
  if ["true", "True", "TRUE"].any fun n => n.toList = t then some true
  else if ["false", "False", "FALSE"].any fun n => n.toList = t then some false
  else none

/-- What a plain scalar stands for; `none` if it is an integer out of range. -/
def Value.ofPlain? (t : Text) : Option Value :=
  if t = [] || isNull t then some .null
  else match truth? t with
    | some b => some (.truth b)
    | none =>
        match integer? t with
        | some value => value
        | none =>
            let digits := if t.head? = some '-' || t.head? = some '+' then t.tail else t
            some (if !hasIdleZero digits && isReal t then .real else .text t)

/-- The tag of a core type. -/
def coreTag (name : String) : Text := ("tag:yaml.org,2002:" : Text) ++ name.toList

/-- What a scalar stands for; `none` if it contradicts its tag or the tag is of
no known type. -/
def Value.ofScalar? (tag : Option Text) (style : Style) (t : Text) : Option Value :=
  match tag with
  | none => if style = .plain then ofPlain? t else some (.text t)
  | some tag =>
      if tag.head? = some '!' then none
      else if tag = coreTag "bool" then (truth? t).map .truth
      else if tag = coreTag "int" then (integer? t).join
      else if tag = coreTag "float" then if isReal t then some .real else none
      else if tag = coreTag "null" then if isNull t then some .null else none
      else some (.text t)

end Rehearsal.Yaml
