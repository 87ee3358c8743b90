import ShaderConformance.Gpu.Format

/-!
# Formats of a simulated device

What a simulated device says of the formats of textures and of vertex attributes.
-/

namespace ShaderConformance.Gpu.Simulated

/-- Bytes of a texel. -/
def texelBytes : TextureFormat → Nat
  | .rgba32Float | .rgba32Uint | .rgba32Sint => 16
  | .rg32Float | .rg32Uint | .rg32Sint | .rgba16Float | .rgba16Unorm | .rgba16Uint
  | .rgba16Sint => 8
  | .r32Float | .r32Uint | .r32Sint | .rg16Float | .rg16Unorm | .rg16Uint | .rg16Sint
  | .rgba8Unorm | .rgba8Snorm | .rgba8Uint | .rgba8Sint | .depth32Float | .depth24PlusStencil8 => 4
  | .r16Float | .r16Unorm | .r16Uint | .r16Sint | .rg8Unorm => 2
  | .r8Unorm => 1

/-- A texture stores as many bytes for a texel as the format that it stands for has. -/
theorem texelBytes_of_texture? {f : Format} {t : TextureFormat} (h : f.texture? = some t) :
    texelBytes t = f.texelSize.toNat := by
  cases f <;> cases h <;> rfl

/-- Only numbers of sixteen bits as fractions need a feature. -/
def requiredFeature? : TextureFormat → Option Feature
  | .rgba16Unorm | .rg16Unorm | .r16Unorm => some .textureFormat16BitNorm
  | _ => none

/-- What a shader reads from a part of the texels.  Whether 32-bit numbers can be filtered
    depends on the device. -/
def sampleType? (has : Feature → Bool) (f : TextureFormat) (aspect : Aspect) :
    Option SampleType :=
  match f with
  | .rgba32Float | .rg32Float | .r32Float => some (.float (has .float32Filterable))
  | .rgba16Float | .rgba16Unorm | .rg16Float | .rg16Unorm | .r16Float | .r16Unorm
  | .rgba8Unorm | .rgba8Snorm | .rg8Unorm | .r8Unorm => some (.float true)
  | .rgba32Uint | .rg32Uint | .r32Uint | .rgba16Uint | .rg16Uint | .r16Uint | .rgba8Uint =>
    some .uint
  | .rgba32Sint | .rg32Sint | .r32Sint | .rgba16Sint | .rg16Sint | .r16Sint | .rgba8Sint =>
    some .sint
  | .depth32Float => some .depth
  | .depth24PlusStencil8 => if aspect = .depthOnly then some .depth else none

/-- Bytes of a vertex attribute. -/
def attributeBytes : VertexFormat → Nat
  | .float32x4 | .uint32x4 | .sint32x4 => 16
  | .float32x2 | .uint32x2 | .sint32x2 | .float16x4 | .unorm16x4 | .uint16x4 | .sint16x4 => 8
  | .float32 | .uint32 | .sint32 | .float16x2 | .unorm16x2 | .uint16x2 | .sint16x2 | .unorm8x4
  | .snorm8x4 | .uint8x4 | .sint8x4 => 4
  | .unorm8x2 => 2

/-- What a simulated device says of its formats. -/
def formats : FormatTraits where
  hasStencil f := f = .depth24PlusStencil8
  requiredFeature? := requiredFeature?
  sampleType? := sampleType?
  isStorageGuaranteed _ f := f = .r32Float ∨ f = .r32Uint ∨ f = .r32Sint
  attributeBytes := attributeBytes
  attributeBytes_of_vertex? {f _} h := by cases f <;> cases h <;> rfl

end ShaderConformance.Gpu.Simulated
