import ShaderConformance.Dialogue
import ShaderConformance.Log
import ShaderConformance.Probe.Readback
import ShaderConformance.Session

/-!
# What a run asks of its surroundings

A run of a test file asks a backend to create and use resources, a compiler to
compile shaders, and a log to take entries.  Each request has its own type of
answers.  A read-back whose size cannot be computed breaks off the run.
-/

namespace ShaderConformance

/-- Why a backend created no resource. -/
inductive BackendError where
  /-- The backend has no such resources. -/
  | unsupported (reason : String)
  /-- Creation was tried and failed. -/
  | failed (reason : String)
deriving DecidableEq, Repr

def BackendError.message : BackendError → String
  | unsupported reason => s!"unsupported: {reason}"
  | failed reason => s!"failed: {reason}"

/-- A request of a run; `H` is what a backend gives for a created resource. -/
inductive Request (H : Type) where
  | create (desc : ResourceDesc) (data : List UInt8)
  | destroy (resource : Resource H)
  | clear (resource : Resource H) (value : ClearValue)
  | draw (state : RenderState H) (topology : Topology) (vertices instances : UInt32)
  | dispatch (state : RenderState H) (x y z : UInt32)
  /-- Copies every subresource. -/
  | copy (source target : Resource H)
  | readback (resource : Resource H) (subresource : UInt32)
  | compile (source : ShaderSource) (type : ShaderType) (model : ShaderModel)
      (options : CompileOptions)
  | preprocess (source : Text)
  | log (entry : LogEntry)

/-- The type of the answers to a request. -/
abbrev Request.Answer {H : Type} : Request H → Type
  | create _ _ => Except BackendError H
  | destroy _ => Unit
  | clear _ _ => Bool
  | draw _ _ _ _ => Bool
  | dispatch _ _ _ _ => Bool
  | copy _ _ => Bool
  | readback _ _ => Except ArithmeticError (Option Readback)
  | compile _ _ _ _ => Except CompileError CompiledShader
  | preprocess _ => Except CompileError Text
  | log _ => Unit

end ShaderConformance
