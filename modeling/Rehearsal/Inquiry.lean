/-
  Rehearsal.Inquiry
  ──────────────────────────────────────
  **Questions to an interpreter, one at a time.**

  An `Inquiry` either is done or asks for the value of an expression and goes on
  with the answer, whatever it is.  What is asked can depend on all answers so
  far, and nothing else: an inquiry knows no session.
-/
import Rehearsal.Text.Chars

namespace Rehearsal

/-- The answer to an expression: its printed output, or an error text. -/
abbrev Answer := Except Text Text

/-- A conversation that ends in an `α`. -/
inductive Inquiry (α : Type) where
  | done (result : α)
  | ask (expression : Text) (next : Answer → Inquiry α)

namespace Inquiry

/-- One inquiry after the other. -/
def bind {α β : Type} : Inquiry α → (α → Inquiry β) → Inquiry β
  | done a, k => k a
  | ask e next, k => ask e fun answer => bind (next answer) k

instance : Monad Inquiry where
  pure := done
  bind := bind

end Inquiry

/-- An error, and the expression it is attributed to. -/
structure Blame where
  expression : Text
  message : Text
  deriving DecidableEq, Repr

/-- An inquiry that an error answer ends. -/
abbrev Examination := ExceptT Blame Inquiry

namespace Examination

/-- Asks for the value of an expression; an error is attributed to it. -/
def evaluate (expression : Text) : Examination Text :=
  ExceptT.mk (Inquiry.ask expression fun
    | .ok output => .done (.ok output)
    | .error message => .done (.error ⟨expression, message⟩))

end Examination

end Rehearsal
