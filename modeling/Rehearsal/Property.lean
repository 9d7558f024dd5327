/-
  Rehearsal.Property
  ──────────────────────────────────────
  **Checking one law.**

  A law is handed to a property driver inside the interpreter.  If the
  evaluation fails because names are unbound, the law is closed over these names
  and handed over once more.  What the driver prints is classified into the
  three outcomes.
-/
import Rehearsal.Inquiry
import Rehearsal.Tally
import Rehearsal.Verdict
import Rehearsal.Text.Template

namespace Rehearsal

/-- How laws are put to the interpreter. -/
structure LawChecker where
  /-- The call of the driver; `{expression}` is the law. -/
  template : Text
  /-- The first capture group of every place where an error text names an
  unbound variable; a group may be absent. -/
  unbound : Option (Text → List (Option Text))
  /-- Closes the law `{expression}` over the names `{variables}`. -/
  lambda : Text

/-- Reads an outcome off what the property driver printed. -/
def classify (output : Text) : Outcome :=
  let t := Text.trim output
  if Text.startsWith "+++ OK" t then .success
  else if Text.startsWith "*** Failed!" t ∨ Text.startsWith "*** Gave up!" t then .failure t
  else match readBool t with
    | some true => .success
    | some false => .failure "property evaluated to False"
    | none => .error t

namespace LawChecker

/-- The call of the driver for a law. -/
def call (c : LawChecker) (law : Text) : Text := Text.fill [("expression", law)] c.template

/-- The names in order of their first occurrence, absent groups left out. -/
def distinct (seen : List Text) : List (Option Text) → List Text
  | [] => seen
  | none :: rest => distinct seen rest
  | some name :: rest => distinct (if name ∈ seen then seen else seen ++ [name]) rest

/-- The names that an error text reports as unbound. -/
def unboundNames (c : LawChecker) (message : Text) : List Text :=
  match c.unbound with
  | none => []
  | some captures => distinct [] (captures message)

/-- Joins names with single spaces. -/
def joinNames : List Text → Text
  | [] => []
  | [n] => n
  | n :: m :: rest => n ++ ' ' :: joinNames (m :: rest)

/-- The law closed over some names. -/
def close (c : LawChecker) (names : List Text) (law : Text) : Text :=
  Text.fill [("variables", joinNames names), ("expression", law)] c.lambda

/-- Puts a law to the interpreter, a second time if names are unbound. -/
def check (c : LawChecker) (law : Text) : Inquiry Outcome :=
  .ask (c.call law) fun
    | .ok output => .done (classify output)
    | .error message =>
        match c.unboundNames message with
        -- Nothing to close the law over, so the error stands.
        | [] => .done (.error message)
        | names => .ask (c.call (c.close names law)) fun
            | .ok output => .done (classify output)
            | .error message => .done (.error message)

end LawChecker

end Rehearsal
