/-!
# Log entries
-/

namespace ShaderConformance

/-- How much a log entry matters. -/
inductive LogLevel where
  | error
  | warn
  | info
  | debug
  | trace
deriving DecidableEq, Repr, Inhabited

namespace LogLevel

def name : LogLevel → String
  | error => "ERROR"
  | warn => "WARN"
  | info => "INFO"
  | debug => "DEBUG"
  | trace => "TRACE"

/-- The number of levels that matter more. -/
def rank : LogLevel → Nat
  | error => 0
  | warn => 1
  | info => 2
  | debug => 3
  | trace => 4

end LogLevel

/-- What a log entry is about. -/
inductive LogTopic where
  /-- The outcome of a check. -/
  | report
  /-- The course of a run. -/
  | run
  /-- The work of the graphics device. -/
  | device
deriving DecidableEq, Repr, Inhabited

/-- A logged message. -/
structure LogEntry where
  level : LogLevel
  topic : LogTopic
  text : String
deriving DecidableEq, Repr, Inhabited

end ShaderConformance
