/-
  Rehearsal.Wire
  ──────────────────────────────────────
  **A session with a child process, line by line.**

  An exchange writes a request and a command that makes the child print the
  sentinel, and then reads lines up to the sentinel.  Whether an answer is an
  error is decided by the error pattern.

    • `Child` — a process as what it prints in answer to its input,
    • `readResponse` — the lines up to the sentinel, and the unread rest,
    • `spawn`, `reload`, `evaluate` — the session.
-/
import Rehearsal.Session
import Rehearsal.Settings
import Rehearsal.Text.Lines
import Rehearsal.Text.Utf8

namespace Rehearsal

/-- A running process with states `σ`. -/
structure Child (σ : Type) where
  /-- Takes input and prints. -/
  feed : σ → Bytes → Bytes × σ
  /-- Input can be written to it. -/
  listens : σ → Bool

namespace Wire

/-! ## §1. Reading. -/

/-- The byte that ends a line. -/
def newline : UInt8 := 10

/-- Cuts off the first line, together with the byte that ends it.  There is no
line in front of the end of the output. -/
def takeLine? : Bytes → Option (Bytes × Bytes)
  | [] => none
  | b :: rest =>
      if b = newline then some ([b], rest)
      else match takeLine? rest with
        | some (line, rest) => some (b :: line, rest)
        | none => some ([b], [])

theorem length_of_takeLine? {bytes line rest : Bytes}
    (h : takeLine? bytes = some (line, rest)) : rest.length < bytes.length := by
  induction bytes generalizing line rest with
  | nil => simp [takeLine?] at h
  | cons b bytes ih =>
    unfold takeLine? at h
    split at h
    · obtain ⟨-, rfl⟩ := by simpa using h
      simp
    · split at h
      · rename_i l r hr
        obtain ⟨-, rfl⟩ := by simpa using h
        have := ih hr
        simp only [List.length_cons]
        omega
      · obtain ⟨-, rfl⟩ := by simpa using h
        simp

/-- Drops all carriage returns and newlines at the end. -/
def dropLineEnd (line : Text) : Text :=
  Text.dropEndWhile (fun c => c = '\n' || c = '\r') line

/-- Reads lines up to the sentinel; what stands in front of the sentinel on its
own line is a line, too, unless it is empty.  Gives the unread rest.  A line that
is no text is read, but ends reading. -/
def readResponse (sentinel : Text) (bytes : Bytes) :
    Except SessionFault (List Text) × Bytes :=
  match _h : takeLine? bytes with
  -- The child closed its output before it printed the sentinel.
  | none => (.error .closed, [])
  | some (line, rest) =>
      match (Text.ofUtf8? line).map dropLineEnd with
      -- The line is consumed, so the next response starts behind it.
      | none => (.error .io, rest)
      | some line =>
          if line = sentinel then (.ok [], rest)
          -- Output that ended without a newline stands in front of the sentinel.
          else match Text.before? sentinel line with
            | some start => (.ok [start], rest)
            | none =>
                let (lines, rest) := readResponse sentinel rest
                (lines.map (line :: ·), rest)
termination_by bytes.length
decreasing_by exact length_of_takeLine? _h

/-! ## §2. Writing. -/

/-- The lines of a request.  One of several lines is set between the block
delimiters, if there are both. -/
def requestText (s : InterpreterSettings) (request : Text) : Text :=
  match s.blockOpen, s.blockClose with
  | some opening, some closing =>
      if request.contains '\n' then opening ++ '\n' :: request ++ '\n' :: closing ++ ['\n']
      else request ++ ['\n']
  | _, _ => request ++ ['\n']

/-- The lines that make the child print the sentinel. -/
def sentinelText (s : InterpreterSettings) : Text := s.sentinelCommand ++ ['\n']

/-! ## §3. The session. -/

/-- The state of a session with a child in states `σ`. -/
structure State (σ : Type) where
  child : σ
  /-- What the child printed and nobody has read yet. -/
  unread : Bytes := []

variable {σ : Type}

/-- Writes a text with the sentinel command behind it, and reads the response. -/
def exchange (child : Child σ) (s : InterpreterSettings) (text : Text) (state : State σ) :
    Except SessionFault Text × State σ :=
  if child.listens state.child then
    let (printed, next) := child.feed state.child (Text.utf8 (text ++ sentinelText s))
    let (response, rest) := readResponse s.sentinel (state.unread ++ printed)
    (response.map Text.unlines, { child := next, unread := rest })
  else (.error .io, state)

/-- Reloads the session. -/
def reload (child : Child σ) (s : InterpreterSettings) (errors : Regex.Matcher)
    (state : State σ) : Except SessionFault Unit × State σ :=
  let (response, state) := exchange child s (requestText s s.reload) state
  (response.bind fun output =>
    if errors.isMatch output then .error (.reload output) else .ok (), state)

/-- Evaluates an expression; a fault of the session is an error answer. -/
def evaluate (child : Child σ) (s : InterpreterSettings) (errors : Regex.Matcher)
    (state : State σ) (expression : Text) : Answer × State σ :=
  let (response, state) := exchange child s (requestText s expression) state
  (match response with
    | .error fault => .error fault.notice.message
    | .ok output => if errors.isMatch output then .error output else .ok output, state)

/-- The session with a child. -/
def session (child : Child σ) (s : InterpreterSettings) (errors : Regex.Matcher) :
    Session (State σ) where
  reload := reload child s errors
  evaluate := evaluate child s errors

/-- The lines of the preamble. -/
def preambleText (s : InterpreterSettings) : Text := s.preamble.flatMap (· ++ ['\n'])

/-- Sends the preamble to a child that was just started. -/
def greet (child : Child σ) (s : InterpreterSettings) (errors : Regex.Matcher) (start : σ) :
    Except SessionFault (State σ) :=
  let (response, state) := exchange child s (preambleText s) { child := start }
  response.bind fun output =>
    if errors.isMatch output then .error (.preamble output) else .ok state

end Wire

end Rehearsal
