import ShaderConformance.Capabilities.Basic
import ShaderConformance.InputElement
import ShaderConformance.Pipeline.State
import ShaderConformance.Registry
import ShaderConformance.Uniforms

/-!
# The state of a run

Everything that the lines of a test file change while it runs.
-/

namespace ShaderConformance

/-- What happens to test blocks. -/
inductive TestAction where
  /-- Their lines are executed. -/
  | run
  /-- Shaders are only compiled. -/
  | compile
  /-- They are reported as skipped. -/
  | skip
deriving DecidableEq, Repr, Inhabited

/-- A stage of the pipeline: its source and the last compile of it. -/
structure Stage where
  source : Option ShaderSource
  /-- The model of the last compile. -/
  compiledAt : Option ShaderModel
  /-- Whether the last compile failed. -/
  failed : Bool
  compiled : Option CompiledShader
deriving DecidableEq, Repr

namespace Stage

/-- A stage without a shader. -/
def empty : Stage := ⟨none, none, false, none⟩

/-- Whether there is a source whose last compile was not for a model. -/
def isStale (s : Stage) (model : ShaderModel) : Bool :=
  s.source.isSome && s.compiledAt ≠ some model

/-- Whether there is a source that failed to compile. -/
def isFailed (s : Stage) : Bool := s.source.isSome && s.failed

/-- A source that was not compiled yet. -/
def ofSource (source : ShaderSource) : Stage := ⟨some source, none, false, none⟩

/-- The stage after a compile for a model. -/
def withCompiled (s : Stage) (model : ShaderModel) (compiled : Option CompiledShader) : Stage :=
  { s with compiledAt := some model, failed := compiled.isNone, compiled }

end Stage

/-- What a draw or dispatch sees. -/
structure RenderState (H : Type) where
  shader : ShaderType → Option CompiledShader
  registry : Registry H
  inputElements : List InputElement
  /-- The uniform buffer. -/
  uniforms : List UInt8
  viewports : Vector (Option Viewport) maxViewports
  fixed : FixedFunctionState

/-- The state of a run. -/
structure Session (H : Type) where
  minimumModel : ShaderModel
  maximumModel : ShaderModel
  stage : ShaderType → Stage
  options : CompileOptions
  uniforms : List UInt8
  registry : Registry H
  inputElements : List InputElement
  viewports : Vector (Option Viewport) maxViewports
  fixed : FixedFunctionState
  /-- Whether the last draw or dispatch failed. -/
  lastRenderFailed : Bool
  action : TestAction
  skipReason : Option String

namespace Session

variable {H : Type}

/-- The state that a run starts with. -/
def fresh (caps : Capabilities) (action : TestAction) : Session H where
  minimumModel := caps.minimumModel
  maximumModel := caps.maximumModel
  stage := fun _ => .empty
  options := .none
  uniforms := []
  registry := .empty
  inputElements := []
  viewports := Vector.replicate maxViewports none
  fixed := .fresh
  lastRenderFailed := false
  action := action
  skipReason := none

/-- Changes one stage. -/
def setStage (s : Session H) (type : ShaderType) (stage : Stage) : Session H :=
  { s with stage := fun t => if t = type then stage else s.stage t }

/-- Gives a stage a source and drops its last compile. -/
def setSource (s : Session H) (type : ShaderType) (source : ShaderSource) : Session H :=
  s.setStage type (.ofSource source)

/-- Keeps the result of compiling a stage. -/
def setCompiled (s : Session H) (type : ShaderType) (model : ShaderModel)
    (compiled : Option CompiledShader) : Session H :=
  s.setStage type ((s.stage type).withCompiled model compiled)

/-- Whether some source failed to compile. -/
def hasFailedShader (s : Session H) : Bool := ShaderType.all.any fun t => (s.stage t).isFailed

/-- Writes into the uniform buffer. -/
def writeUniform (s : Session H) (offset : UInt32) (data : List UInt8) : Session H :=
  { s with uniforms := Uniforms.write s.uniforms offset data }

/-- What a draw or dispatch sees. -/
def renderState (s : Session H) : RenderState H where
  shader := fun t => (s.stage t).compiled
  registry := s.registry
  inputElements := s.inputElements
  uniforms := s.uniforms
  viewports := s.viewports
  fixed := s.fixed

end Session

end ShaderConformance
