import ShaderConformance.Gpu.Object
import ShaderConformance.Pipeline.State
import ShaderConformance.Resource.Description
import ShaderConformance.Sampler.Basic

/-!
# Tests in the terms of graphics devices

How resources, samplers and topologies are expressed for a device.  What a device has
no expression for gives `none`.
-/

namespace ShaderConformance

namespace Gpu

/-- How vertices form primitives. -/
inductive PrimitiveTopology where
  | pointList
  | lineList
  | lineStrip
  | triangleList
  | triangleStrip
deriving DecidableEq, Repr

def PrimitiveTopology.name : PrimitiveTopology → String
  | pointList => "PointList"
  | lineList => "LineList"
  | lineStrip => "LineStrip"
  | triangleList => "TriangleList"
  | triangleStrip => "TriangleStrip"

/-- How a texture is addressed outside of the unit interval. -/
inductive AddressMode where
  | clampToEdge
  | repeated
  | mirrorRepeat
  | clampToBorder
deriving DecidableEq, Repr

def AddressMode.name : AddressMode → String
  | clampToEdge => "ClampToEdge"
  | repeated => "Repeat"
  | mirrorRepeat => "MirrorRepeat"
  | clampToBorder => "ClampToBorder"

/-- How a device samples textures. -/
structure SamplerDescription where
  address : PerCoordinate AddressMode
  min : FilterMode
  mag : FilterMode
  mip : FilterMode
  /-- The comparison with a reference, if samples are compared. -/
  compare : Option ComparisonFunc
  /-- Whether there is a border, which is transparent and black. -/
  border : Bool
deriving DecidableEq, Repr

end Gpu

/-- The primitives of a topology; devices have no patches. -/
def Topology.primitive? : Topology → Option Gpu.PrimitiveTopology
  | pointList => some .pointList
  | lineList => some .lineList
  | lineStrip => some .lineStrip
  | triangleList => some .triangleList
  | triangleStrip => some .triangleStrip
  | patchList _ => none

/-- A device's address mode; there is none for mirroring once. -/
def AddressMode.device? : AddressMode → Option Gpu.AddressMode
  | border => some .clampToBorder
  | clamp => some .clampToEdge
  | mirror => some .mirrorRepeat
  | wrap => some .repeated
  | mirrorOnce => none

/-- How a device samples for a sampler. -/
def SamplerDesc.device? (s : SamplerDesc) : Option Gpu.SamplerDescription := do
  let u ← s.address.u.device?
  let v ← s.address.v.device?
  let w ← s.address.w.device?
  return {
    address := ⟨u, v, w⟩
    min := s.filter.min
    mag := s.filter.mag
    mip := s.filter.mip
    compare := if s.filter.comparison then s.func else none
    border := s.address.u = .border ∨ s.address.v = .border ∨ s.address.w = .border }

namespace ResourceDesc

variable (d : ResourceDesc)

/-- The axes of a texture. -/
def textureDimension : Gpu.TextureDimension := if d.dimension = .texture3d then .d3 else .d2

/-- The extent of a texture. -/
def textureExtent : Gpu.Extent :=
  ⟨d.width, d.height, if d.dimension = .texture3d then d.depth else d.layerCount⟩

/-- The view through which a whole texture is bound. -/
def viewDimension : Gpu.ViewDimension :=
  match d.dimension with
  | .texture3d => .d3
  | .cube => .cube
  | .texture2dArray => .d2Array
  | _ => .d2

/-- The uses of a texture: those of its type, but a multisampled one is only drawn to
    and read by shaders. -/
def textureUsage : List Gpu.TextureUsage :=
  if 1 < d.sampleCount then [.textureBinding, .renderAttachment]
  else
    match d.type with
    | .renderTarget => [.copySource, .copyTarget, .textureBinding, .renderAttachment]
    | .depthStencil => [.copySource, .textureBinding, .renderAttachment]
    | .uav => [.copySource, .copyTarget, .textureBinding, .storageBinding]
    | .texture | .vertexBuffer => [.copySource, .copyTarget, .textureBinding]

/-- The bytes of a buffer.  The width of a vertex buffer is in bytes, that of any other
    buffer in elements. -/
def bufferSize : UInt64 :=
  if d.type = .vertexBuffer then d.width.toUInt64 else d.width.toUInt64 * d.texelSize.toUInt64

/-- The bytes of a buffer do not overflow. -/
theorem toNat_bufferSize :
    d.bufferSize.toNat =
      if d.type = .vertexBuffer then d.width.toNat else d.width.toNat * d.texelSize.toNat := by
  unfold bufferSize
  split
  · rfl
  · have := Nat.mul_lt_mul'' d.width.toNat_lt d.texelSize.toNat_lt
    simp only [UInt64.toNat_mul, UInt32.toNat_toUInt64]
    omega

end ResourceDesc

end ShaderConformance
