import ShaderConformance.Log

/-!
# Outcomes of checks

Every check of a run is classified and counted.  A failing check is tolerated where
failure is expected, and a passing one there is a failure, since the expectation is
out of date.
-/

namespace ShaderConformance

/-- How a check was classified. -/
inductive Outcome where
  | pass
  /-- Failed as expected for a missing feature. -/
  | todo
  /-- Failed as expected for a known bug. -/
  | bug
  | fail
deriving DecidableEq, Repr, Inhabited

/-- The class of a check. -/
def Outcome.classify (ok todo bug : Bool) : Outcome :=
  if ok then (if todo || bug then .fail else .pass)
  else if bug then .bug
  else if todo then .todo
  else .fail

/-- The counters of some runs. -/
structure Summary where
  passed : Nat
  failed : Nat
  skipped : Nat
  todo : Nat
  bug : Nat
deriving DecidableEq, Repr, Inhabited

namespace Summary

def zero : Summary := ⟨0, 0, 0, 0, 0⟩

/-- Whether nothing failed. -/
def isSuccess (s : Summary) : Bool := s.failed = 0

instance : Add Summary :=
  ⟨fun a b => ⟨a.passed + b.passed, a.failed + b.failed, a.skipped + b.skipped, a.todo + b.todo,
    a.bug + b.bug⟩⟩

/-- Counts an outcome. -/
def count (s : Summary) : Outcome → Summary
  | .pass => { s with passed := s.passed + 1 }
  | .todo => { s with todo := s.todo + 1 }
  | .bug => { s with bug := s.bug + 1 }
  | .fail => { s with failed := s.failed + 1 }

/-- Counts a skipped test. -/
def skip (s : Summary) : Summary := { s with skipped := s.skipped + 1 }

/-- The sum of the counters. -/
def total (s : Summary) : Nat := s.passed + s.failed + s.skipped + s.todo + s.bug

def text (s : Summary) : String :=
  s!"{s.passed} passed, {s.failed} failed, {s.skipped} skipped, {s.todo} todo, {s.bug} bug"

end Summary

/-- A check: whether it passed, what was expected of it, and where and how it would
    fail. -/
structure Check where
  ok : Bool
  todo : Bool
  bug : Bool
  line : Nat
  message : String
deriving DecidableEq, Repr

namespace Check

/-- The class of a check. -/
def outcome (c : Check) : Outcome := .classify c.ok c.todo c.bug

/-- What the report says of a check: its level and the word for it.  A plain pass is
    not reported. -/
def verdict? (c : Check) : Option (LogLevel × String) :=
  match c.ok, c.bug, c.todo with
  | true, false, false => none
  | true, true, _ => some (.error, "Bug fixed")
  | true, false, true => some (.error, "Todo succeeded")
  | false, true, _ => some (.warn, "Bug")
  | false, false, true => some (.warn, "Todo")
  | false, false, false => some (.error, "Test failed")

/-- The log entry of a check in a file. -/
def entry? (c : Check) (file : String) : Option LogEntry :=
  c.verdict?.map fun (level, word) =>
    { level, topic := .report, text := s!"{file}:{c.line}: {word}: {c.message}" }

end Check

/-- The log entry of a skipped test. -/
def skipEntry (file : String) (line : Nat) (reason : String) : LogEntry where
  level := .info
  topic := .report
  text := s!"{file}:{line}: Test skipped: {reason}"

end ShaderConformance
