import ShaderConformance.Format

/-!
# Formats of graphics devices

The texture and vertex formats that a graphics device knows, the optional features of
devices, and which formats stand for those of test files.  What else there is to know of the
formats of a device is said by the library that gives access to it.
-/

namespace ShaderConformance.Gpu

/-- An optional feature of a graphics device. -/
inductive Feature where
  | shaderF64
  | shaderInt64
  | shaderF16
  | subgroup
  | textureFormat16BitNorm
  | addressModeClampToBorder
  | float32Filterable
  | textureAdapterSpecificFormatFeatures
  | pushConstants
  | depthClipControl
deriving DecidableEq, Repr

namespace Feature

/-- Every feature, in the usual order. -/
def all : List Feature :=
  [shaderF64, shaderInt64, shaderF16, subgroup, textureFormat16BitNorm, addressModeClampToBorder,
   float32Filterable, textureAdapterSpecificFormatFeatures, pushConstants, depthClipControl]

def name : Feature → String
  | shaderF64 => "SHADER_F64"
  | shaderInt64 => "SHADER_INT64"
  | shaderF16 => "SHADER_F16"
  | subgroup => "SUBGROUP"
  | textureFormat16BitNorm => "TEXTURE_FORMAT_16BIT_NORM"
  | addressModeClampToBorder => "ADDRESS_MODE_CLAMP_TO_BORDER"
  | float32Filterable => "FLOAT32_FILTERABLE"
  | textureAdapterSpecificFormatFeatures => "TEXTURE_ADAPTER_SPECIFIC_FORMAT_FEATURES"
  | pushConstants => "PUSH_CONSTANTS"
  | depthClipControl => "DEPTH_CLIP_CONTROL"

/-- How a feature that only native devices have is written as a set of its own. -/
def nativeSet (f : Feature) : String :=
  "Features \x7b features_wgpu: FeaturesWGPU(" ++ f.name ++
    "), features_webgpu: FeaturesWebGPU(0x0) \x7d"

end Feature

/-- What a shader reads from a texture. -/
inductive SampleType where
  | float (filterable : Bool)
  | depth
  | sint
  | uint
deriving DecidableEq, Repr

/-- Which part of the texels is meant. -/
inductive Aspect where
  | all
  | depthOnly
deriving DecidableEq, Repr

/-- The formats of textures. -/
inductive TextureFormat where
  | rgba32Float
  | rgba32Uint
  | rgba32Sint
  | rg32Float
  | rg32Uint
  | rg32Sint
  | r32Float
  | r32Uint
  | r32Sint
  | rgba16Float
  | rgba16Unorm
  | rgba16Uint
  | rgba16Sint
  | rg16Float
  | rg16Unorm
  | rg16Uint
  | rg16Sint
  | r16Float
  | r16Unorm
  | r16Uint
  | r16Sint
  | rgba8Unorm
  | rgba8Snorm
  | rgba8Uint
  | rgba8Sint
  | rg8Unorm
  | r8Unorm
  | depth32Float
  | depth24PlusStencil8
deriving DecidableEq, Repr

namespace TextureFormat

/-- The name of a format. -/
def name : TextureFormat → String
  | rgba32Float => "Rgba32Float"
  | rgba32Uint => "Rgba32Uint"
  | rgba32Sint => "Rgba32Sint"
  | rg32Float => "Rg32Float"
  | rg32Uint => "Rg32Uint"
  | rg32Sint => "Rg32Sint"
  | r32Float => "R32Float"
  | r32Uint => "R32Uint"
  | r32Sint => "R32Sint"
  | rgba16Float => "Rgba16Float"
  | rgba16Unorm => "Rgba16Unorm"
  | rgba16Uint => "Rgba16Uint"
  | rgba16Sint => "Rgba16Sint"
  | rg16Float => "Rg16Float"
  | rg16Unorm => "Rg16Unorm"
  | rg16Uint => "Rg16Uint"
  | rg16Sint => "Rg16Sint"
  | r16Float => "R16Float"
  | r16Unorm => "R16Unorm"
  | r16Uint => "R16Uint"
  | r16Sint => "R16Sint"
  | rgba8Unorm => "Rgba8Unorm"
  | rgba8Snorm => "Rgba8Snorm"
  | rgba8Uint => "Rgba8Uint"
  | rgba8Sint => "Rgba8Sint"
  | rg8Unorm => "Rg8Unorm"
  | r8Unorm => "R8Unorm"
  | depth32Float => "Depth32Float"
  | depth24PlusStencil8 => "Depth24PlusStencil8"

end TextureFormat

/-- The formats of vertex attributes. -/
inductive VertexFormat where
  | float32x4
  | uint32x4
  | sint32x4
  | float32x2
  | uint32x2
  | sint32x2
  | float32
  | uint32
  | sint32
  | float16x4
  | unorm16x4
  | uint16x4
  | sint16x4
  | float16x2
  | unorm16x2
  | uint16x2
  | sint16x2
  | unorm8x4
  | snorm8x4
  | uint8x4
  | sint8x4
  | unorm8x2
deriving DecidableEq, Repr

namespace VertexFormat

/-- The name of a format. -/
def name : VertexFormat → String
  | float32x4 => "Float32x4"
  | uint32x4 => "Uint32x4"
  | sint32x4 => "Sint32x4"
  | float32x2 => "Float32x2"
  | uint32x2 => "Uint32x2"
  | sint32x2 => "Sint32x2"
  | float32 => "Float32"
  | uint32 => "Uint32"
  | sint32 => "Sint32"
  | float16x4 => "Float16x4"
  | unorm16x4 => "Unorm16x4"
  | uint16x4 => "Uint16x4"
  | sint16x4 => "Sint16x4"
  | float16x2 => "Float16x2"
  | unorm16x2 => "Unorm16x2"
  | uint16x2 => "Uint16x2"
  | sint16x2 => "Sint16x2"
  | unorm8x4 => "Unorm8x4"
  | snorm8x4 => "Snorm8x4"
  | uint8x4 => "Uint8x4"
  | sint8x4 => "Sint8x4"
  | unorm8x2 => "Unorm8x2"

end VertexFormat

end Gpu

/-- The texture format that stands for a format; bits without a reading are kept as
    integers. -/
def Format.texture? : Format → Option Gpu.TextureFormat
  | r32G32B32A32Float => some .rgba32Float
  | r32G32B32A32Uint => some .rgba32Uint
  | r32G32B32A32Sint => some .rgba32Sint
  | r32G32Float => some .rg32Float
  | r32G32Uint => some .rg32Uint
  | r32G32Sint => some .rg32Sint
  | r32Float => some .r32Float
  | r32Uint | r32Typeless => some .r32Uint
  | r32Sint => some .r32Sint
  | r16G16B16A16Float => some .rgba16Float
  | r16G16B16A16Unorm => some .rgba16Unorm
  | r16G16B16A16Uint => some .rgba16Uint
  | r16G16B16A16Sint => some .rgba16Sint
  | r16G16Float => some .rg16Float
  | r16G16Unorm => some .rg16Unorm
  | r16G16Uint => some .rg16Uint
  | r16G16Sint => some .rg16Sint
  | r16Float => some .r16Float
  | r16Unorm => some .r16Unorm
  | r16Uint => some .r16Uint
  | r16Sint => some .r16Sint
  | r8G8B8A8Unorm => some .rgba8Unorm
  | r8G8B8A8Snorm => some .rgba8Snorm
  | r8G8B8A8Uint => some .rgba8Uint
  | r8G8B8A8Sint => some .rgba8Sint
  | r8G8Unorm => some .rg8Unorm
  | r8Unorm => some .r8Unorm
  | d32Float => some .depth32Float
  | d24UnormS8Uint => some .depth24PlusStencil8
  | unknown => none

/-- The vertex format that stands for a format. -/
def Format.vertex? : Format → Option Gpu.VertexFormat
  | r32G32B32A32Float => some .float32x4
  | r32G32B32A32Uint => some .uint32x4
  | r32G32B32A32Sint => some .sint32x4
  | r32G32Float => some .float32x2
  | r32G32Uint => some .uint32x2
  | r32G32Sint => some .sint32x2
  | r32Float => some .float32
  | r32Uint => some .uint32
  | r32Sint => some .sint32
  | r16G16B16A16Float => some .float16x4
  | r16G16B16A16Unorm => some .unorm16x4
  | r16G16B16A16Uint => some .uint16x4
  | r16G16B16A16Sint => some .sint16x4
  | r16G16Float => some .float16x2
  | r16G16Unorm => some .unorm16x2
  | r16G16Uint => some .uint16x2
  | r16G16Sint => some .sint16x2
  | r8G8B8A8Unorm => some .unorm8x4
  | r8G8B8A8Snorm => some .snorm8x4
  | r8G8B8A8Uint => some .uint8x4
  | r8G8B8A8Sint => some .sint8x4
  | r8G8Unorm => some .unorm8x2
  | _ => none

/-- What a graphics library says of its formats, as far as a backend relies on it. -/
structure Gpu.FormatTraits where
  /-- Whether a format has a stencil part. -/
  hasStencil : TextureFormat → Bool
  /-- The feature without which a device has no textures of a format. -/
  requiredFeature? : TextureFormat → Option Feature
  /-- What a shader reads from a part of the texels on a device with some features; `none`
      if the part has no single reading. -/
  sampleType? : (has : Feature → Bool) → TextureFormat → Aspect → Option SampleType
  /-- Whether shaders can both read and write a storage texture of a format on every device
      with some features. -/
  isStorageGuaranteed : (features : List Feature) → TextureFormat → Bool
  /-- Bytes of a vertex attribute. -/
  attributeBytes : VertexFormat → Nat
  /-- An attribute takes as many bytes as the texels of the format that it stands for. -/
  attributeBytes_of_vertex? : ∀ {f : Format} {v}, f.vertex? = some v →
    attributeBytes v = f.texelSize.toNat

end ShaderConformance
