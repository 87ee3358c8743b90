import ShaderConformance.Run.Moment

/-!
# Runs

The steps of a run work on its state, may fail with a fault, and ask requests.  The
state outlives a fault, so that what a run has created can be destroyed.
-/

namespace ShaderConformance

/-- What is done with the tests of a file. -/
inductive RunMode where
  /-- Resources are created, shaders compiled and tests executed. -/
  | run
  /-- Shaders are only compiled, for some models. -/
  | compileOnly
deriving DecidableEq, Repr, Inhabited

/-- What test blocks do unless they are skipped. -/
def RunMode.action : RunMode → TestAction
  | run => .run
  | compileOnly => .compile

/-- What stays the same during a run. -/
structure RunContext where
  /-- The name of the file in reports. -/
  file : String
  mode : RunMode
  caps : Capabilities

/-- What changes during a run. -/
structure RunState (H : Type) where
  session : Session H
  summary : Summary

/-- A dialogue of a run with a backend, a compiler and a log. -/
abbrev Run (H : Type) := Dialogue (Q := Moment H) Moment.Answer

/-- A step of a run, which may fail. -/
abbrev Step (H E : Type) := ExceptT E (StateT (RunState H) (Run H))

namespace Step

variable {H E : Type}

/-- Asks a request. -/
def ask (q : Request H) : Step H E q.Answer :=
  fun s => .ask ⟨s.session, .request q⟩ fun a => .done (.ok a, s)

/-- Takes a note. -/
def note (n : Note) : Step H E Unit :=
  fun s => .ask ⟨s.session, .note n⟩ fun _ => .done (.ok (), s)

/-- Turns to a block or test line. -/
def turnTo (turn : Turn) : Step H E Unit := note (.turn turn)

/-- The session. -/
def session : Step H E (Session H) := do return (← get).session

/-- Changes the session. -/
def modifySession (f : Session H → Session H) : Step H E Unit :=
  modify fun s => { s with session := f s.session }

/-- Logs something about the course of the run. -/
def log (level : LogLevel) (text : String) : Step H E Unit :=
  ask (.log ⟨level, .run, text⟩)

/-- Refuses with a fault. -/
def refuse {T : Type} (fault : E) : Step H E T := throw fault

/-- A result that may be a fault. -/
def ofExcept {T : Type} (result : Except E T) : Step H E T :=
  match result with
  | .ok value => pure value
  | .error fault => refuse fault

/-- Counts a check and logs it unless it is a plain pass. -/
def check (context : RunContext) (c : Check) : Step H E Unit := do
  note (.check c)
  modify fun s => { s with summary := s.summary.count c.outcome }
  match c.entry? context.file with
  | some entry => ask (.log entry)
  | none => return

/-- Counts and logs a skipped test. -/
def skip (context : RunContext) (line : Nat) (reason : String) : Step H E Unit := do
  note (.skip line reason)
  modify fun s => { s with summary := s.summary.skip }
  ask (.log (skipEntry context.file line reason))

/-- Names the faults of a step. -/
def mapFault {E' T : Type} (f : E → E') (step : Step H E T) : Step H E' T :=
  ExceptT.adapt f step

end Step

end ShaderConformance
