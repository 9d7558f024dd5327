/-
  Rehearsal.Shell.Syntax
  ──────────────────────────────────────
  **Commands of a POSIX shell.**

  The text of a script is a list of bytes, each written as the character with
  its number, so a script may print what is no text at all.
-/
import Rehearsal.Text.Utf8

namespace Rehearsal.Shell

/-- Bytes as characters. -/
def ofBytes (b : Bytes) : Text := b.map fun b => Char.ofNat b.toNat

/-- Characters below 256 as bytes. -/
def toBytes (t : Text) : Bytes := t.map fun c => UInt8.ofNat c.toNat

/-- The bytes of a text, as characters. -/
def encode (t : Text) : Text := ofBytes (Text.utf8 t)

/-! ## §1. Words. -/

/-- What is done with the value of a parameter. -/
inductive ParamUse where
  /-- The value itself. -/
  | value
  /-- The length of the value. -/
  | length
  /-- `-`: another word, if there is no value. -/
  | default
  /-- `=`: the same, and the parameter is set to it. -/
  | assign
  /-- `?`: an error, if there is no value. -/
  | demand
  /-- `+`: another word, if there is a value. -/
  | alternative
  /-- `#` and `##`: the value without a start that matches a pattern. -/
  | dropStart (longest : Bool)
  /-- `%` and `%%`: the value without an end that matches a pattern. -/
  | dropEnd (longest : Bool)
  deriving DecidableEq, Repr

/-- The use says itself what happens without a value. -/
def ParamUse.copesWithout : ParamUse → Bool
  | .default | .assign | .demand | .alternative => true
  | _ => false

/-- A part of a word. -/
inductive Part where
  /-- Characters that stand for themselves. -/
  | plain (text : Text)
  /-- The same in quotes. -/
  | quoted (text : Text)
  /-- A parameter; `orEmpty` tells whether an empty value counts as none. -/
  | param (inQuotes : Bool) (name : Text) (use : ParamUse) (orEmpty : Bool) (word : List Part)
  /-- `$((…))`. -/
  | arithmetic (inQuotes : Bool) (expression : List Part)
  /-- `$(…)`, and the line that its script starts on. -/
  | output (inQuotes : Bool) (line : Nat) (script : Text)
  deriving Repr

/-- A word is a list of parts. -/
abbrev Word := List Part

/-! ## §2. Commands. -/

/-- What a descriptor is redirected to. -/
inductive RedirectKind where
  | input
  | output
  | append
  /-- Another descriptor, or none for `-`. -/
  | duplicate
  /-- The word itself is the input. -/
  | here
  deriving DecidableEq, Repr

/-- A redirection. -/
structure Redirect where
  descriptor : Nat
  kind : RedirectKind
  word : Word
  deriving Repr

/-- A command. -/
inductive Command where
  /-- Words with assignments in front, and the line that it stands on. -/
  | simple (line : Nat) (assignments : List (Text × Word)) (words : List Word)
      (redirects : List Redirect)
  | pipeline (negated : Bool) (commands : List Command)
  | both (first second : Command)
  | either (first second : Command)
  | sequence (commands : List Command)
  /-- `{ … }` and compound commands with redirections. -/
  | group (body : Command) (redirects : List Redirect)
  | subshell (body : Command)
  | branch (condition body : Command) (otherwise : Command)
  | loop (negated : Bool) (condition body : Command)
  /-- Without words the positional parameters are meant. -/
  | each (name : Text) (words : Option (List Word)) (body : Command)
  | select (word : Word) (cases : List (List Word × Command))
  | define (name : Text) (body : Command)
  deriving Repr

/-- The command that does nothing. -/
def Command.nothing : Command := .sequence []

end Rehearsal.Shell
