import ShaderConformance.Run.Commands

/-!
# Runs of test files

A file is read line by line.  A line that starts with an opening bracket ends the
open block and opens another one; every other line goes to the open block.  Most
blocks take effect when they end, and test lines as soon as they are read.  The
resources that are live in the end are destroyed, also after a fault; only a run that
breaks off leaves them as they are.
-/

namespace ShaderConformance

/-- A fault and the line that it is about. -/
structure LocatedFault where
  line : Nat
  fault : Fault
deriving DecidableEq, Repr

/-- A message about a line of a file. -/
def atPlace (file : String) (line : Nat) (message : String) : String :=
  s!"{file}:{line}: {message}"

/-- The wording of a fault in a file. -/
def LocatedFault.message (f : LocatedFault) (file : String) : String :=
  atPlace file f.line f.fault.message

namespace Step

variable {H : Type}

/-- Blames the faults of a step on a line. -/
def atLine {T : Type} (line : Nat) (step : Step H Fault T) : Step H LocatedFault T :=
  mapFault (⟨line, ·⟩) step

/-- A block with a line taken in, unless the line was refused. -/
def taken {T : Type} (make : T → Block) (result : T × Option Fault) : Step H Fault Block :=
  match result with
  | (_, some fault) => refuse fault
  | (value, none) => return make value

/-- Gives a line to the open block. -/
def takeLine (context : RunContext) (block : Block) (text : Text) (line : Nat) :
    Step H Fault Block :=
  match block with
  | .none => refuse .outsideBlock
  | .inputLayout => do
    let element ← ofExcept (InputElement.read text)
    modifySession fun s => { s with inputElements := s.inputElements ++ [element] }
    return block
  | .require b => taken .require (b.takeLine text)
  | .resource b => taken .resource (b.takeLine text)
  | .sampler s => taken .sampler (s.takeLine text)
  | .test => do
    runTestLine context text line
    return block
  | .shader _ _ | .preproc _ _ => return block

/-- Opens the block of a header line. -/
def openBlock (context : RunContext) (text : Text) : Step H Fault Block := do
  let header ← ofExcept (BlockHeader.read (← qualifierContext context) text)
  let block := Block.ofHeader header
  match block with
  | .inputLayout => modifySession fun s => { s with inputElements := [] }
  | _ => return block
  return block

/-- Reports a test block as skipped if tests are skipped. -/
def finishTest {E : Type} (context : RunContext) (line : Nat) : Step H E Unit := do
  let s ← session
  if s.action = .skip then skip context line (s.skipReason.getD "")

/-- Ends a block, whose header stands on a line. -/
def finishBlock (context : RunContext) (block : Block) (line : Nat) : Step H Fault Unit := do
  turnTo (.close block line)
  match block with
  | .none | .inputLayout => return
  | .test => finishTest context line
  | .require b => finishRequire context b
  | .resource b => finishResource context b line
  | .sampler s => finishSampler s
  | .shader header text => finishShader context header text line
  | .preproc refused text => finishPreproc context text refused line

/-- The open block and the line of its header. -/
structure OpenBlock where
  block : Block
  line : Nat

/-- Reads a header line. -/
def headerLine (context : RunContext) (current : OpenBlock) (text : Text) (line : Nat) :
    Step H LocatedFault OpenBlock := do
  -- What the open block lacks is blamed on its own header.
  atLine current.line (finishBlock context current.block current.line)
  let block ← atLine line (openBlock context text)
  log .debug s!"{context.file}:{line}: Entering {block.kind} block"
  return ⟨block, line⟩

/-- Whether a line says nothing outside of source: a comment or a line of blanks. -/
def isSilent (text : Text) : Bool := text.head? = some '%' || Text.isBlankLine text

/-- Reads a line that is no header. -/
def bodyLine (context : RunContext) (current : OpenBlock) (text : Text) (line : Nat) :
    Step H LocatedFault OpenBlock := do
  match current.block.collect? text with
  | some block => return { current with block }
  | none =>
    if isSilent text then return current
    log .trace s!"{context.file}:{line}: {String.ofList text}"
    return { current with block := ← atLine line (takeLine context current.block text line) }

/-- Reads a line. -/
def readLine (context : RunContext) (current : OpenBlock) (text : Text) (line : Nat) :
    Step H LocatedFault OpenBlock :=
  if text.head? = some '[' then headerLine context current text line
  else bodyLine context current text line

/-- Reads lines, the first of which has a number, and ends the last block. -/
def readLines (context : RunContext) (current : OpenBlock) (line : Nat) :
    List Text → Step H LocatedFault Unit
  | [] => atLine current.line (finishBlock context current.block current.line)
  | text :: more => do
    let current ← readLine context current text line
    readLines context current (line + 1) more

/-- Reads a file. -/
def readFile (context : RunContext) (text : Text) : Step H LocatedFault Unit :=
  readLines context ⟨.none, 0⟩ 1 (Text.lines text)

/-- Destroys what is live and refuses with the fault of a file, which may have broken the
    run off before. -/
def stop (fault : LocatedFault) : Step H LocatedFault Unit :=
  if fault.fault.breaksOff then refuse fault
  else do
    teardown
    refuse fault

/-- Reads a file, and destroys what is live in the end. -/
def readAndTearDown (context : RunContext) (text : Text) : Step H LocatedFault Unit := do
  tryCatch (readFile context text) stop
  -- Reached only without a fault: the handler above ends in one.
  teardown

end Step

/-- The result of a run: its counters, or the fault that stopped it. -/
abbrev RunResult := Except LocatedFault Summary

/-- Whether a run broke off, and so came to no result that anyone is told. -/
def RunResult.breaksOff : RunResult → Bool
  | .error fault => fault.fault.breaksOff
  | .ok _ => false

/-- Runs a test file. -/
def runFile (H : Type) (context : RunContext) (text : Text) : Run H RunResult := do
  let start : RunState H := ⟨.fresh context.caps context.mode.action, .zero⟩
  let say (s : RunState H) (text : String) : Run H Unit :=
    .ask ⟨s.session, .request (.log ⟨.info, .run, text⟩)⟩ .done
  say start s!"Running {context.file}"
  let (result, final) ← Step.readAndTearDown context text start
  match result with
  | .error fault => return .error fault
  | .ok () =>
    say final s!"{context.file}: {final.summary.text}"
    return .ok final.summary

end ShaderConformance
