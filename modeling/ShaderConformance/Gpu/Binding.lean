import ShaderConformance.Capabilities.Basic
import ShaderConformance.Gpu.Call
import ShaderConformance.Gpu.Fault
import ShaderConformance.Gpu.Register
import ShaderConformance.Session

/-!
# Binding what shaders use

Every binding of a shader is resolved to a resource, a sampler or the uniform buffer of
the run, and a bind group is made of them with a layout that describes them.
-/

namespace ShaderConformance.Gpu

/-- What a backend knows of its device. -/
structure Device where
  /-- The features that the device was created with. -/
  has : Feature → Bool
  /-- What the runner claims to support. -/
  caps : Capabilities
  /-- What is known of the formats. -/
  formats : FormatTraits

/-- A program that may find a fault. -/
abbrev Attempt := ExceptT RenderFault Program

namespace Attempt

/-- Makes one call. -/
def call (c : Call) : Attempt c.Answer := ExceptT.lift (Program.call c)

/-- Finds a fault. -/
def refuse {T : Type} (fault : RenderFault) : Attempt T := throw fault

/-- A value, or the fault that there is none. -/
def require {T : Type} (fault : RenderFault) : Option T → Attempt T
  | some value => pure value
  | none => refuse fault

/-- A result that may be a fault. -/
def ofExcept {T : Type} : Except RenderFault T → Attempt T
  | .ok value => pure value
  | .error fault => refuse fault

end Attempt

/-- What is found for a binding: what its layout expects, and the object. -/
structure Resolved where
  type : BindingType
  object : Bound
deriving DecidableEq, Repr

/-- How a shader samples through a sampler. -/
def samplerBinding (filter : SamplerFilter) (comparison : Bool) : SamplerBinding :=
  if comparison then .comparison
  else if filter.min = .linear ∨ filter.mag = .linear ∨ filter.mip = .linear then .filtering
  else .nonFiltering

/-- The part of the texels of a format that shaders read. -/
def sampledAspect (format : Format) : Aspect := if format.isDepth then .depthOnly else .all

/-- A view of a whole texture. -/
def boundView (desc : ResourceDesc) (aspect : Aspect) : ViewDescription :=
  { ViewDescription.whole with dimension := some desc.viewDimension, aspect }

/-- Binds a texture that a shader samples. -/
def bindTexture (device : Device) (desc : ResourceDesc) (texture : Texture)
    (multisampled : Bool) : Attempt Resolved := do
  let aspect := sampledAspect desc.format
  let sampleType ← Attempt.require (.notSampled desc.ref)
    (device.formats.sampleType? device.has texture.format aspect)
  let view ← Attempt.call (.createView texture.object (boundView desc aspect))
  return ⟨.texture sampleType desc.viewDimension multisampled, .view view⟩

/-- Binds a texture that a shader stores to. -/
def bindStorage (device : Device) (desc : ResourceDesc) (texture : Texture) :
    Attempt Resolved := do
  let view ← Attempt.call (.createView texture.object (boundView desc .all))
  return ⟨.storageTexture (device.caps.uavLoad desc.format) texture.format desc.viewDimension,
    .view view⟩

/-- Binds a live resource as what a shader uses it as. -/
def bindResource (device : Device) (state : RenderState Handle) (ref : ResourceRef)
    (kind : BindingKind) : Attempt Resolved := do
  let resource ← Attempt.require (.undefinedResource ref) (state.registry.get? ref)
  match resource.handle, kind with
  | .buffer b, .storageBuffer readOnly => return ⟨.storage readOnly, .buffer b.object⟩
  | .texture t, .texture multisampled => bindTexture device resource.desc t multisampled
  | .texture t, .storageTexture => bindStorage device resource.desc t
  | _, _ => Attempt.refuse (.wrongKind ref kind)

/-- The label of samplers. -/
def samplerLabel : String := "Test Sampler"

/-- Binds the sampler of a slot. -/
def bindSampler (state : RenderState Handle) (slot : UInt32) (comparison : Bool) :
    Attempt Resolved := do
  let sampler ← Attempt.require (.undefinedSampler slot)
    (state.registry.samplers.find? (·.slot = slot))
  let desc ← Attempt.require (.samplerAddress slot) sampler.device?
  let object ← Attempt.call (.createSampler samplerLabel desc)
  return ⟨.sampler (samplerBinding sampler.filter comparison), .sampler object⟩

/-- Resolves a binding. -/
def resolve (device : Device) (state : RenderState Handle) (uniforms : Object .buffer)
    (b : ShaderBinding) : Attempt Resolved :=
  match Register.ofBinding? b with
  | none => Attempt.refuse (.outsideRegisters b)
  | some .uniforms => return ⟨.uniform, .buffer uniforms⟩
  | some (.texture slot) => bindResource device state ⟨.texture, slot⟩ b.kind
  | some (.uav slot) => bindResource device state ⟨.uav, slot⟩ b.kind
  | some (.sampler slot comparison) => bindSampler state slot comparison

/-- Resolves bindings in order. -/
def resolveAll (device : Device) (state : RenderState Handle) (uniforms : Object .buffer) :
    List ShaderBinding → Attempt (List (UInt32 × Resolved))
  | [] => return []
  | b :: more => do
    let found ← resolve device state uniforms b
    return (b.binding, found) :: (← resolveAll device state uniforms more)

/-- The entries of a layout. -/
def layoutEntries (visibility : List Stage) (found : List (UInt32 × Resolved)) :
    List LayoutEntry :=
  found.map fun (binding, r) => ⟨binding, visibility, r.type⟩

/-- The entries of a bind group. -/
def groupEntries (found : List (UInt32 × Resolved)) : List GroupEntry :=
  found.map fun (binding, r) => ⟨binding, r.object⟩

/-- A bind group with its layout. -/
structure Group where
  layout : Object .bindGroupLayout
  group : Object .bindGroup

/-- Creates the bind group for the bindings of some stages. -/
def bindGroup (device : Device) (state : RenderState Handle) (uniforms : Object .buffer)
    (visibility : List Stage) (bindings : List ShaderBinding) : Attempt Group := do
  let found ← resolveAll device state uniforms bindings
  let layout ← Attempt.call
    (.createBindGroupLayout "Test Bind Group Layout" (layoutEntries visibility found))
  let group ← Attempt.call (.createBindGroup "Test Bind Group" layout (groupEntries found))
  return ⟨layout, group⟩

/-- The bindings without those that repeat the index of the last one before them. -/
def dropRepeats (index : UInt32) : List ShaderBinding → List ShaderBinding
  | [] => []
  | b :: more =>
    if b.binding = index then dropRepeats index more else b :: dropRepeats b.binding more

/-- The first one of each run of bindings with the same index. -/
def firstOfRuns : List ShaderBinding → List ShaderBinding
  | [] => []
  | b :: more => b :: dropRepeats b.binding more

/-- The bindings of two stages in the order of their indices, each index once. -/
def mergeBindings (first second : List ShaderBinding) : List ShaderBinding :=
  firstOfRuns ((first ++ second).mergeSort fun a b => a.binding ≤ b.binding)

end ShaderConformance.Gpu
