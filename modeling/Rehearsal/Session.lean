/-
  Rehearsal.Session
  ──────────────────────────────────────
  **The interpreter as a state machine.**

  A session answers every request from its state and moves on, so an answer may
  depend on everything that was asked before.
-/
import Rehearsal.Fault
import Rehearsal.Inquiry

namespace Rehearsal

/-- A persistent interpreter with states `σ`. -/
structure Session (σ : Type) where
  /-- Drops the bindings of the session and loads the modules under test. -/
  reload : σ → Except SessionFault Unit × σ
  /-- Evaluates an expression. -/
  evaluate : σ → Text → Answer × σ

end Rehearsal
