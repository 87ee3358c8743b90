import ShaderConformance.Bytes
import ShaderConformance.Format
import ShaderConformance.Resource.Kind

/-!
# Descriptions of resources

What a backend is told when it creates a resource, and the arithmetic of mip
levels and subresources.  Levels vary fastest among the subresources.
-/

namespace ShaderConformance

/-- A resource as a test file describes it. -/
structure ResourceDesc where
  slot : UInt32
  type : ResourceType
  dimension : Dimension
  format : Format
  /-- Bytes of an element: the stride of a structured buffer. -/
  texelSize : UInt32
  width : UInt32
  height : UInt32
  depth : UInt32
  layerCount : UInt32
  levelCount : UInt32
  sampleCount : UInt32
  /-- A buffer addressed in bytes. -/
  isRaw : Bool
  /-- A buffer that serves as the hidden counter of an unordered access view. -/
  isCounter : Bool
deriving DecidableEq, Repr, Inhabited

/-- The largest of three extents. -/
def largestExtent (width height depth : UInt32) : UInt32 := max (max width height) depth

/-- An extent at a mip level: halved, rounding down, for every level but never
    less than one. -/
def extentAt (extent level : UInt32) : UInt32 :=
  if level < 32 then max (extent >>> level) 1 else 1

namespace ResourceDesc

/-- The description that a block starts with: one texel, for vertex buffers a
    buffer. -/
def fresh (type : ResourceType) (slot : UInt32) : ResourceDesc :=
  let format : Format := if type = .depthStencil then .d32Float else .r32G32B32A32Float
  { slot, type, format
    dimension := if type = .vertexBuffer then .buffer else .texture2d
    texelSize := format.texelSize
    width := 1, height := 1, depth := 1
    layerCount := 1, levelCount := 1, sampleCount := 1
    isRaw := false, isCounter := false }

variable (d : ResourceDesc)

/-- The type and slot that name the resource. -/
def ref : ResourceRef := ⟨d.type, d.slot⟩

def isBuffer : Bool := d.dimension = .buffer

def levelWidth (level : UInt32) : UInt32 := extentAt d.width level

def levelHeight (level : UInt32) : UInt32 := extentAt d.height level

def levelDepth (level : UInt32) : UInt32 := extentAt d.depth level

/-- The number of levels down to a single texel. -/
def maxLevelCount : Nat := (max (largestExtent d.width d.height d.depth) 1).toNat.log2 + 1

/-- The number of subresources. -/
def subresourceCount : Except ArithmeticError UInt32 :=
  checkedWord (d.levelCount.toNat * d.layerCount.toNat)

/-- The place of a level of a layer among the subresources. -/
def subresourceIndex (level layer : UInt32) : Except ArithmeticError UInt32 :=
  checkedWord (layer.toNat * d.levelCount.toNat + level.toNat)

end ResourceDesc

end ShaderConformance
