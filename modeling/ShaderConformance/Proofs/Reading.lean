import ShaderConformance.Proofs.FileActs

/-!
# Between the lines of a file

After some lines of a file a block is open, which the next header or the end of the file
ends.

## Main definitions

- `readOpen`: reading lines up to a point between two of them
- `Reached`: a block is open in a state after some lines of a file

## Main statements

- `readLines_eq_readOpen`: the end of a file ends the block that its lines leave open
-/

namespace ShaderConformance

namespace Step

variable {H : Type} {context : RunContext} {current : OpenBlock} {line : Nat}

/-- Reads lines, the first of which has a number, and leaves the last block open. -/
def readOpen (context : RunContext) (current : OpenBlock) (line : Nat) :
    List Text → Step H LocatedFault OpenBlock
  | [] => return current
  | text :: more => do
    let current ← readLine context current text line
    readOpen context current (line + 1) more

/-- Ends the open block. -/
def closeOpen (context : RunContext) (current : OpenBlock) : Step H LocatedFault Unit :=
  atLine current.line (finishBlock context current.block current.line)

/-- Opens the block of a header line. -/
def openAt (context : RunContext) (text : Text) (line : Nat) : Step H LocatedFault OpenBlock := do
  let block ← atLine line (openBlock context text)
  log .debug s!"{context.file}:{line}: Entering {block.kind} block"
  return ⟨block, line⟩

/-- A header ends the block before it and opens its own. -/
theorem headerLine_eq (text : Text) :
    (headerLine context current text line : Step H LocatedFault OpenBlock) = (do
      closeOpen context current
      openAt context text line) := rfl

/-- The end of a file ends the block that its lines leave open. -/
theorem readLines_eq_readOpen (lines : List Text) :
    (readLines context current line lines : Step H LocatedFault Unit) = (do
      let last ← readOpen context current line lines
      closeOpen context last) := by
  induction lines generalizing current line with
  | nil => rw [readOpen, pure_bind, readLines, closeOpen]
  | cons text more ih => simp only [readLines, readOpen, bind_assoc, ih]

/-! ## Steps with a journal -/

section Journal

variable {E T : Type} (script : Journal.Script) (failure : Option BackendError)
  (x : Step Nat E T) (s : RunState Nat)

/-- What a step comes to with a journal. -/
def journalEnd : Except E T × RunState Nat :=
  ((x.run.run s).answer (Journal.surroundings script).moments (.fresh failure)).1

/-- What a step goes through with a journal. -/
def journalTrace : List (Event Nat) :=
  (x.run.run s).transcript (Journal.surroundings script).moments (.fresh failure)

/-- The trace of a journal is a run of the step. -/
theorem runs_journalTrace :
    x.Runs s (journalTrace script failure x s) (journalEnd script failure x s).1
      (journalEnd script failure x s).2 :=
  Dialogue.runs_transcript _ _ _

end Journal

end Step

variable {H : Type} {context : RunContext} {current : Step.OpenBlock} {s : RunState H}

/-- A block is open in a state after some lines of a file. -/
def Reached (context : RunContext) (current : Step.OpenBlock) (s : RunState H) : Prop :=
  ∃ lines events, (Step.readOpen context ⟨.none, 0⟩ 1 lines).Runs (.start context) events
    (.ok current) s

/-- The lines of a file that is read with a journal. -/
theorem Reached.of_journalEnd {script : Journal.Script} {failure : Option BackendError}
    {lines : List Text} (h : (Step.journalEnd script failure
      (Step.readOpen context ⟨.none, 0⟩ 1 lines) (.start context)).1 = .ok current) :
    Reached context current (Step.journalEnd script failure
      (Step.readOpen context ⟨.none, 0⟩ 1 lines) (.start context)).2 := by
  have hrun := Step.runs_journalTrace script failure (Step.readOpen context ⟨.none, 0⟩ 1 lines)
    (.start context)
  rw [h] at hrun
  exact ⟨lines, _, hrun⟩

end ShaderConformance
