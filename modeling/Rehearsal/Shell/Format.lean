/-
  Rehearsal.Shell.Format
  ──────────────────────────────────────
  **What `echo` and `printf` print.**
-/
import Rehearsal.Shell.Arithmetic

namespace Rehearsal.Shell

/-! ## §1. Escapes. -/

/-- Reads at most `count` octal digits. -/
def octal (count acc : Nat) : Text → Nat × Text
  | [] => (acc, [])
  | c :: t =>
      match count with
      | 0 => (acc, c :: t)
      | count + 1 =>
          if '0' ≤ c && c ≤ '7' then octal count (acc * 8 + (c.toNat - '0'.toNat)) t
          else (acc, c :: t)

/-- The character that a letter behind a backslash stands for. -/
def escapeLetter? : Char → Option Char
  | 'a' => some '\x07'
  | 'b' => some '\x08'
  | 'f' => some '\x0c'
  | 'n' => some '\n'
  | 'r' => some '\r'
  | 't' => some '\t'
  | 'v' => some '\x0b'
  | '\\' => some '\\'
  | _ => none

/-- Reads what stands behind a backslash: the character, and the rest. -/
def escape (t : Text) : Char × Text :=
  match t with
  | [] => ('\\', [])
  | c :: rest =>
      if '0' ≤ c && c ≤ '7' then
        let (n, rest) := octal 3 0 t
        (Char.ofNat (n % 256), rest)
      else match escapeLetter? c with
        | some e => (e, rest)
        | none => ('\\', t)

/-- A text with its escapes, as `echo` takes them; `false` if `\c` cut it off. -/
def unescape (fuel : Nat) (t : Text) : Text × Bool :=
  match fuel, t with
  | 0, _ => ([], true)
  | _, [] => ([], true)
  | _ + 1, '\\' :: 'c' :: _ => ([], false)
  | fuel + 1, '\\' :: '0' :: t =>
      let (n, rest) := octal 3 0 t
      let (more, whole) := unescape fuel rest
      (Char.ofNat (n % 256) :: more, whole)
  | fuel + 1, '\\' :: t =>
      let (c, rest) := escape t
      let (more, whole) := unescape fuel rest
      (c :: more, whole)
  | fuel + 1, c :: t =>
      let (more, whole) := unescape fuel t
      (c :: more, whole)

/-- Joins texts with single spaces. -/
def joinWords : List Text → Text
  | [] => []
  | [w] => w
  | w :: v :: rest => w ++ ' ' :: joinWords (v :: rest)

/-- What `echo` prints. -/
def echoText (arguments : List Text) : Text :=
  let (line, words) :=
    match arguments with
    | ['-', 'n'] :: words => (false, words)
    | words => (true, words)
  let joined := joinWords words
  let (t, whole) := unescape (joined.length + 1) joined
  if line && whole then t ++ ['\n'] else t

/-! ## §2. Conversions. -/

/-- The options of a conversion. -/
structure Conversion where
  left : Bool := false
  zero : Bool := false
  plus : Bool := false
  space : Bool := false
  alternate : Bool := false
  width : Nat := 0
  precision : Option Nat := none

/-- Reads the flags of a conversion. -/
def flags (c : Conversion) : Text → Conversion × Text
  | '-' :: t => flags { c with left := true } t
  | '0' :: t => flags { c with zero := true } t
  | '+' :: t => flags { c with plus := true } t
  | ' ' :: t => flags { c with space := true } t
  | '#' :: t => flags { c with alternate := true } t
  | t => (c, t)

/-- The value of decimal digits. -/
def decimal (t : Text) : Nat := t.foldl (fun n c => n * 10 + (c.toNat - '0'.toNat)) 0

/-- Reads width and precision of a conversion. -/
def sizes (c : Conversion) (t : Text) : Conversion × Text :=
  let width := t.takeWhile Char.isDigit
  let c := { c with width := decimal width }
  match t.drop width.length with
  | '.' :: t =>
      let precision := t.takeWhile Char.isDigit
      ({ c with precision := some (decimal precision) }, t.drop precision.length)
  | t => (c, t)

/-- Pads a text to the width of a conversion. -/
def pad (c : Conversion) (t : Text) : Text :=
  let fill := List.replicate (c.width - t.length) ' '
  if c.left then t ++ fill else fill ++ t

/-- A number with its sign. -/
def padNumber (c : Conversion) (sign digits : Text) : Text :=
  let digits :=
    match c.precision with
    | some p => List.replicate (p - digits.length) '0' ++ digits
    | none =>
        if c.zero && !c.left then
          List.replicate (c.width - sign.length - digits.length) '0' ++ digits
        else digits
  pad c (sign ++ digits)

/-- The longest number at the front of a text, in decimal, hexadecimal or octal
digits, and what is left of the text. -/
def leadingNumber (t : Text) : Int × Text :=
  let unsigned (t : Text) : Option (Int × Text) :=
    let (radix, t) : Nat × Text := match t with
      | '0' :: 'x' :: d :: more =>
          if (Unicode.Ranges.hexDigit? d).isSome then (16, d :: more) else (8, t)
      | '0' :: _ => (8, t)
      | _ => (10, t)
    let digits := t.takeWhile fun c => (Unicode.Ranges.hexDigit? c).any (· < radix)
    (Arithmetic.digits? radix digits).map fun n => (n, t.drop digits.length)
  let signed : Option (Int × Text) := match t.dropWhile Text.isBlank with
    | '-' :: t => (unsigned t).map fun (n, rest) => (-n, rest)
    | '+' :: t => unsigned t
    | t => unsigned t
  signed.getD (0, t)

/-- The number that an argument is, and what is wrong with it.  A quote in front
asks for the code of the character behind it. -/
def argumentNumber (least greatest : Int) (argument : Text) : Int × List Text :=
  match argument with
  | '\'' :: c :: _ => (c.toNat, [])
  | '"' :: c :: _ => (c.toNat, [])
  | _ =>
      let (n, rest) := leadingNumber argument
      let wrong (message : Text) : List Text := [argument ++ (": " : Text) ++ message]
      if argument = [] then (0, [])
      else if rest = argument then (0, wrong "expected numeric value")
      else if rest ≠ [] then (n, wrong "not completely converted")
      else if n < least then (least, wrong "Numerical result out of range")
      else if greatest < n then (greatest, wrong "Numerical result out of range")
      else (n, [])

/-- What was printed, and what went wrong. -/
structure Printed where
  text : Text := []
  /-- What is wrong with the arguments. -/
  complaints : List Text := []
  /-- Nothing more is printed. -/
  isCut : Bool := false
  /-- The conversion that does not exist. -/
  invalid : Option Text := none

namespace Printed

/-- One text behind another. -/
def append (a b : Printed) : Printed :=
  if a.isCut then a
  else { b with text := a.text ++ b.text, complaints := a.complaints ++ b.complaints }

/-- A character in front. -/
def cons (c : Char) (p : Printed) : Printed := { p with text := c :: p.text }

end Printed

/-- The text of an argument under a conversion letter. -/
def convert (c : Conversion) (letter : Char) (argument : Text) : Printed :=
  let limit : Int := Nat.pow 2 63
  let natural (radix : Nat) : Text × List Text :=
    let (n, wrong) := argumentNumber (-(limit + limit)) (limit + limit - 1) argument
    (Nat.toDigits radix (n.emod (limit + limit)).toNat, wrong)
  let number (sign : Text) (p : Text × List Text) : Printed :=
    { text := padNumber c sign p.1, complaints := p.2 }
  match letter with
  | 's' => { text := pad c (match c.precision with | some p => argument.take p | none => argument) }
  | 'b' =>
      let (t, whole) := unescape (argument.length + 1) argument
      { text := pad c t, isCut := !whole }
  | 'c' => { text := pad c (argument.take 1) }
  | 'd' | 'i' =>
      let (n, wrong) := argumentNumber (-limit) (limit - 1) argument
      let sign : Text :=
        if n < 0 then ['-'] else if c.plus then ['+'] else if c.space then [' '] else []
      number sign (Text.ofNat n.natAbs, wrong)
  | 'u' => number [] (natural 10)
  | 'o' => number (if c.alternate then ['0'] else []) (natural 8)
  | 'x' => number (if c.alternate then ['0', 'x'] else []) (natural 16)
  | 'X' =>
      let (digits, wrong) := natural 16
      number (if c.alternate then ['0', 'X'] else []) (digits.map Char.toUpper, wrong)
  | _ => { isCut := true, invalid := some ['%', letter] }

/-! ## §3. Formats. -/

/-- Prints a format once, and gives the arguments that are left. -/
def formatOnce (fuel : Nat) (arguments : List Text) (t : Text) : Printed × List Text :=
  match fuel, t with
  | 0, _ => ({}, arguments)
  | _, [] => ({}, arguments)
  | fuel + 1, '%' :: '%' :: t =>
      let (more, left) := formatOnce fuel arguments t
      (more.cons '%', left)
  | fuel + 1, '%' :: t =>
      let (c, t) := flags {} t
      let (c, t) := sizes c t
      match t with
      | [] => ({ isCut := true, invalid := some ['%'] }, arguments)
      | letter :: t =>
          let here := convert c letter (arguments.headD [])
          let (more, left) := formatOnce fuel arguments.tail t
          (here.append more, left)
  | _ + 1, '\\' :: 'c' :: _ => ({ isCut := true }, arguments)
  | fuel + 1, '\\' :: t =>
      let (c, rest) := escape t
      let (more, left) := formatOnce fuel arguments rest
      (more.cons c, left)
  | fuel + 1, c :: t =>
      let (more, left) := formatOnce fuel arguments t
      (more.cons c, left)

/-- Prints a format again and again, as long as it uses up arguments. -/
def formatAll (fuel : Nat) (format : Text) (arguments : List Text) : Printed :=
  match fuel with
  | 0 => {}
  | fuel + 1 =>
      let (here, left) := formatOnce (format.length + 1) arguments format
      if here.isCut || left.isEmpty || left.length = arguments.length then here
      else here.append (formatAll fuel format left)

/-- What `printf` prints for a format and its arguments. -/
def printf (format : Text) (arguments : List Text) : Printed :=
  formatAll (arguments.length + 1) format arguments

end Rehearsal.Shell
