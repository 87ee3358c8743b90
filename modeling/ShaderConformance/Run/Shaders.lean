import ShaderConformance.Model.Variants
import ShaderConformance.Run.Basic

/-!
# Shaders and requirements of a run

A shader block stores its source and, unless tests are skipped, has it compiled: in
run mode at the lowest model of the range, in compile-only mode at the models that
are worth it.  Every such compile is a check against the expectation of the header.
-/

namespace ShaderConformance.Step

variable {H : Type}

/-- Asks the compiler for a shader at a model. -/
def compile {E : Type} (source : ShaderSource) (type : ShaderType) (model : ShaderModel) :
    Step H E (Except CompileError CompiledShader) := do
  ask (.compile source type model (← session).options)

/-- Checks the result of a compile against the header of its block. -/
def checkCompile {E : Type} (context : RunContext) (header : ShaderHeader) (model : ShaderModel)
    (result : Except CompileError CompiledShader) (line : Nat) : Step H E Unit := do
  if let .error error := result then
    log .debug s!"{context.file}:{line}: {header.type} at {model}: {error.message}"
  let got := CompileStatus.of result
  let expected := header.expected model
  check context
    { ok := got = expected, todo := header.todo.contains model, bug := false, line
      message := s!"Compiling the {header.type} at {model}: got {got}, expected {expected}." }

/-- Compiles and checks a source at each of some models. -/
def compileVariants {E : Type} (context : RunContext) (header : ShaderHeader)
    (source : ShaderSource) (line : Nat) : List ShaderModel → Step H E Unit
  | [] => return
  | model :: more => do
    let result ← compile source header.type model
    checkCompile context header model result line
    compileVariants context header source line more

/-- Ends a shader block when shaders are only compiled. -/
def compileBlock {E : Type} (context : RunContext) (header : ShaderHeader)
    (source : ShaderSource) (line : Nat) : Step H E Unit := do
  if context.caps.accepts header.format then
    let s ← session
    compileVariants context header source line
      (ShaderModel.variants s.minimumModel s.maximumModel header.expected)
  else
    skip context line s!"{context.caps.compiler} does not accept {header.format} sources"

/-- Skips the tests from here on. -/
def skipTests {E : Type} (reason : String) : Step H E Unit :=
  modifySession fun s => { s with action := .skip, skipReason := some reason }

/-- Ends a shader block when tests are executed. -/
def runBlock {E : Type} (context : RunContext) (header : ShaderHeader) (source : ShaderSource)
    (line : Nat) : Step H E Unit := do
  if context.caps.accepts header.format then
    let model := (← session).minimumModel
    let result ← compile source header.type model
    checkCompile context header model result line
    modifySession fun s => s.setCompiled header.type model result.toOption
  else
    let reason := s!"{context.caps.runner} does not accept {header.format} sources"
    log .debug s!"{context.file}:{line}: Skipping tests: {reason}"
    skipTests reason

/-- Ends a shader block. -/
def finishShader {E : Type} (context : RunContext) (header : ShaderHeader) (text : Text)
    (line : Nat) : Step H E Unit := do
  let source : ShaderSource := ⟨text, header.format⟩
  note (.store header.type source)
  modifySession fun s => s.setSource header.type source
  match (← session).action with
  | .skip => return
  | .compile => compileBlock context header source line
  | .run => runBlock context header source line

/-- Compiles a stage again if its last compile was for another model. -/
def refreshStage {E : Type} (context : RunContext) (type : ShaderType) : Step H E Unit := do
  let s ← session
  let model := s.minimumModel
  if (s.stage type).isStale model then
    match (s.stage type).source with
    | none => return
    | some source =>
      let result ← compile source type model
      if let .error error := result then
        log .debug s!"{context.file}: Recompiling the {type} at {model}: {error.message}"
      modifySession fun s => s.setCompiled type model result.toOption

/-- Compiles some stages again where needed. -/
def refreshStages {E : Type} (context : RunContext) : List ShaderType → Step H E Unit
  | [] => return
  | type :: more => do
    refreshStage context type
    refreshStages context more

/-- The outcome of a preprocessor block, as the check or the reason to skip it. -/
def preprocCheck (result : Except CompileError Text) (refused : Bool) (line : Nat) :
    Except String Check :=
  let check ok message : Check := { ok, todo := false, bug := false, line, message }
  match result, refused with
  | .error (.notImplemented reason), _ => .error reason
  | .ok output, false =>
    .ok (check (Text.contains output "pass".toList && !Text.contains output "fail".toList)
      "Preprocessed output does not contain 'pass' alone.")
  | .ok _, true => .ok (check false "Preprocessing succeeded, expected failure.")
  | .error (.failed message), refused => .ok (check refused s!"Preprocessing failed: {message}")

/-- Ends a preprocessor block, which counts only when shaders are only compiled. -/
def finishPreproc {E : Type} (context : RunContext) (text : Text) (refused : Bool) (line : Nat) :
    Step H E Unit := do
  if context.mode = .compileOnly ∧ (← session).action ≠ .skip then
    match preprocCheck (← ask (.preprocess text)) refused line with
    | .ok c => check context c
    | .error reason => skip context line reason

/-- The session under some requirements.  The results of earlier compiles are no longer
    known to be for the model of the range. -/
def underRequirements (s : Session H) (r : Requirements) : Session H :=
  { s with
    minimumModel := r.minimumModel
    maximumModel := r.maximumModel.getD .oldest
    options := r.options
    stage := fun t => { s.stage t with compiledAt := none } }

/-- Ends a require block. -/
def finishRequire {E : Type} (context : RunContext) (block : RequireBlock) : Step H E Unit := do
  let requirements := block.evaluate context.caps
  modifySession fun s => underRequirements s requirements
  match requirements.skipReason? with
  | some reason =>
    log .debug s!"{context.file}: Skipping tests: {reason}"
    skipTests reason
  | none => modifySession fun s => { s with action := context.mode.action, skipReason := none }

end ShaderConformance.Step
