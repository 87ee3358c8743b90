import ShaderConformance.Format
import ShaderConformance.Resource.Kind
import ShaderConformance.Shader.Basic

/-!
# Why a draw or dispatch is not made

The faults that a backend finds itself before it submits a draw or dispatch, and their
wording.
-/

namespace ShaderConformance

/-- The wording of a kind of binding. -/
def BindingKind.text : BindingKind → String
  | uniformBuffer => "UniformBuffer"
  | storageBuffer readOnly => "StorageBuffer \x7b read_only: " ++ toString readOnly ++ " \x7d"
  | texture multisampled => "Texture \x7b multisampled: " ++ toString multisampled ++ " \x7d"
  | storageTexture => "StorageTexture"
  | sampler comparison => "Sampler \x7b comparison: " ++ toString comparison ++ " \x7d"

instance : ToString BindingKind := ⟨BindingKind.text⟩

namespace Gpu

/-- Why a draw or dispatch is not made. -/
inductive RenderFault where
  /-- A viewport other than the first one is set. -/
  | extraViewport (index : Nat)
  /-- A device loads no bytecode. -/
  | bytecode (type : ShaderType)
  | undefinedSampler (slot : UInt32)
  /-- A sampler has an address mode that devices have no expression for. -/
  | samplerAddress (slot : UInt32)
  /-- A binding belongs to no register. -/
  | outsideRegisters (binding : ShaderBinding)
  | undefinedResource (ref : ResourceRef)
  /-- A texture has no single reading. -/
  | notSampled (ref : ResourceRef)
  /-- A resource is not what a shader uses it as. -/
  | wrongKind (ref : ResourceRef) (kind : BindingKind)
  | notVertexFormat (format : Format)
  | undefinedVertexBuffer (slot : UInt32)
deriving DecidableEq, Repr

def RenderFault.message : RenderFault → String
  | extraViewport index => s!"viewport {index} is set but only one viewport is supported"
  | bytecode type => s!"{type} bytecode cannot be loaded"
  | undefinedSampler slot => s!"sampler {slot} is not defined"
  | samplerAddress slot => s!"sampler {slot} uses an unsupported address mode"
  | outsideRegisters b => s!"binding {b.binding} ({b.kind}) is outside the register ranges"
  | undefinedResource ref => s!"{ref} is not defined"
  | notSampled ref => s!"{ref} cannot be sampled"
  | wrongKind ref kind => s!"{ref} cannot be bound as {kind}"
  | notVertexFormat format => s!"{format} is not a vertex format"
  | undefinedVertexBuffer slot => s!"vertex buffer {slot} is not defined"

end Gpu

end ShaderConformance
