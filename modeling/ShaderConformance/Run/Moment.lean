import ShaderConformance.Block.Basic
import ShaderConformance.Command.Basic
import ShaderConformance.Report
import ShaderConformance.Run.Request

/-!
# Moments of a run

A run asks its surroundings requests, and takes notes of its own course: the block or
test line that it turns to, the sources that it stores, and what it reports.  Notes
reach nobody, so they change nothing; with the session at hand they tell what a request
was asked for.
-/

namespace ShaderConformance

/-- What a run turns to. -/
inductive Turn where
  /-- The end of a block, whose header stands on a line. -/
  | close (block : Block) (line : Nat)
  /-- A test line that was read, and is executed unless something failed before. -/
  | read (line : Nat) (test : TestLine)
  /-- The execution of that test line. -/
  | execute (line : Nat) (test : TestLine)

/-- A note of a run. -/
inductive Note where
  | turn (turn : Turn)
  /-- A stage is given a source. -/
  | store (type : ShaderType) (source : ShaderSource)
  /-- A check is counted. -/
  | check (c : Check)
  /-- A skipped test is counted. -/
  | skip (line : Nat) (reason : String)

/-- What a run does at a moment. -/
inductive Deed (H : Type) where
  | request (q : Request H)
  | note (n : Note)

/-- The type of the answers to a deed; nobody answers a note. -/
abbrev Deed.Answer {H : Type} : Deed H → Type
  | request q => q.Answer
  | note _ => Unit

/-- A deed, and the session in which it is done. -/
structure Moment (H : Type) where
  session : Session H
  deed : Deed H

/-- The type of the answers at a moment. -/
abbrev Moment.Answer {H : Type} (m : Moment H) : Type := m.deed.Answer

end ShaderConformance
