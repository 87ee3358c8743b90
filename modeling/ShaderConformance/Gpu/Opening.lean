import ShaderConformance.Gpu.Binding

/-!
# Opening a device

The backend asks for a fast adapter, and for a device with every optional feature that
the adapter has.  What the runner supports follows from them.
-/

namespace ShaderConformance.Gpu

/-- Why no device was opened. -/
inductive OpenError where
  | noAdapter (reason : String)
  | noDevice (reason : String)
deriving DecidableEq, Repr

def OpenError.message : OpenError → String
  | noAdapter reason => s!"failed to find a suitable adapter: {reason}"
  | noDevice reason => s!"failed to create device: {reason}"

/-- The interfaces under which an adapter is looked for. -/
def searched : List Interface := [.vulkan, .metal, .dx12, .browserWebGpu]

/-- The features that a device is asked for, if its adapter has them. -/
def optionalFeatures : List Feature :=
  [.shaderF64, .shaderInt64, .shaderF16, .subgroup, .textureFormat16BitNorm,
   .addressModeClampToBorder, .float32Filterable, .textureAdapterSpecificFormatFeatures]

/-- The features that a device of an adapter has. -/
def enabledFeatures (adapter : Adapter) : List Feature := optionalFeatures.filter adapter.has

/-- The tag of an interface, if it has one. -/
def Interface.tag? : Interface → Option String
  | vulkan => some "vulkan"
  | dx12 => some "d3d12"
  | metal => some "msl"
  | gl => some "opengl"
  | noop | browserWebGpu => none

/-- The tags of software renderers, each with a part of the adapter's name in lower
    case. -/
def softwareTags : List (String × String) :=
  [("llvmpipe", "llvmpipe"), ("microsoft basic render driver", "warp")]

/-- The tags of an adapter. -/
def adapterTags (adapter : Adapter) : List String :=
  let name := adapter.name.toList.map Char.toLower
  let software := softwareTags.filter fun (part, _) => Text.contains name part.toList
  "wgpu" :: adapter.kind.tag?.toList ++ software.map Prod.snd

/-- The feature of a device that a feature of tests needs, if devices have it at all. -/
def deviceFeature? : ShaderConformance.Feature → Option Feature
  | .float64 => some .shaderF64
  | .int64 => some .shaderInt64
  | .waveOps => some .subgroup
  | .native16Bit => some .shaderF16
  | _ => none

/-- Whether shaders can both read and write a texture of a format.  Only with a feature
    of its own does a device go beyond what all devices can. -/
def loadsAndStores (formats : FormatTraits) (adapter : Adapter) (format : TextureFormat) :
    Bool :=
  if (enabledFeatures adapter).contains .textureAdapterSpecificFormatFeatures then
    adapter.stores format && adapter.readsAndWrites format
  else formats.isStorageGuaranteed (enabledFeatures adapter) format

/-- What the runner supports on a device of an adapter. -/
def capabilities (formats : FormatTraits) (adapter : Adapter) : Capabilities where
  runner := "wgpu"
  compiler := "naga"
  tags := adapterTags adapter
  minimumModel := .sm6_0
  maximumModel := .newest
  has := fun f => (deviceFeature? f).any (enabledFeatures adapter).contains
  uavLoad := fun f => f.texture?.any (loadsAndStores formats adapter)
  sourceFormats := [.hlsl, .wgsl]

/-- The device of an adapter. -/
def Device.ofAdapter (formats : FormatTraits) (adapter : Adapter) : Device :=
  ⟨(enabledFeatures adapter).contains, capabilities formats adapter, formats⟩

/-- Opens a device. -/
def openDevice (formats : FormatTraits) : Program (Except OpenError Device) := do
  match ← Program.call (.requestAdapter searched) with
  | .error reason => return .error (.noAdapter reason)
  | .ok adapter =>
    match ← Program.call (.requestDevice "Shader Runner Device" (enabledFeatures adapter)) with
    | .error reason => return .error (.noDevice reason)
    | .ok () =>
      Program.log .info s!"Using {adapter.name} ({adapter.kind.name})"
      return .ok (.ofAdapter formats adapter)

end ShaderConformance.Gpu
