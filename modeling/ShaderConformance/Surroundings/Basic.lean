import ShaderConformance.Run.File

/-!
# Surroundings of a run

A backend, a compiler and a log, given together as a function of a state that answers
every request.
-/

namespace ShaderConformance

/-- What answers the requests of runs. -/
abbrev Surroundings (S H : Type) := (q : Request H) → S → q.Answer × S

/-- The answers at every moment of a run: requests are asked, and notes reach nobody. -/
def Surroundings.moments {S H : Type} (surroundings : Surroundings S H) :
    (m : Moment H) → S → m.Answer × S
  | ⟨_, .request q⟩, s => surroundings q s
  | ⟨_, .note _⟩, s => ((), s)

/-- A state with the requests that were made, the last one first. -/
structure Traced (S H : Type) where
  state : S
  requests : List (Request H)

/-- Surroundings that keep the requests. -/
def Surroundings.traced {S H : Type} (surroundings : Surroundings S H) :
    Surroundings (Traced S H) H :=
  fun q s =>
    let (a, state) := surroundings q s.state
    (a, ⟨state, q :: s.requests⟩)

/-- Runs a test file against surroundings. -/
def runFileWith {S H : Type} (surroundings : Surroundings S H) (context : RunContext)
    (text : Text) (state : S) : RunResult × S :=
  (runFile H context text).answer surroundings.moments state

end ShaderConformance
