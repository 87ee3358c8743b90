import ShaderConformance.Gpu.Call
import ShaderConformance.Resource.Description

/-!
# Levels of textures as bytes

How many bytes a level of a layer takes, the writes that fill a texture with the payload
of a resource, and the padded rows through which a level is read back.
-/

namespace ShaderConformance.Gpu

/-- The extents of a level of a layer, and its bytes. -/
structure LevelLayout where
  width : UInt32
  height : UInt32
  depth : UInt32
  /-- Bytes of a row. -/
  row : UInt32
  /-- Bytes of the level. -/
  size : Nat
deriving DecidableEq, Repr

/-- A product of words, unless it overflows. -/
def checkedProduct (a b : UInt32) : Option UInt32 :=
  if a.toNat * b.toNat < UInt32.size then some (a * b) else none

/-- A number of bytes, unless it is beyond the address space. -/
def addressable (size : Nat) : Option Nat := if size < UInt64.size then some size else none

/-- The slices of a level; only a volume has more than one. -/
def levelSlices (d : ResourceDesc) (level : UInt32) : UInt32 :=
  if d.dimension = .texture3d then d.levelDepth level else 1

/-- The layout of a level; `none` if it is too large. -/
def levelLayout? (d : ResourceDesc) (level : UInt32) : Option LevelLayout := do
  let width := d.levelWidth level
  let height := d.levelHeight level
  let depth := levelSlices d level
  let row ← checkedProduct width d.texelSize
  let size ← addressable (row.toNat * height.toNat * depth.toNat)
  return { width, height, depth, row, size }

/-- The layouts of all levels; `none` if one is too large. -/
def levelLayouts? (d : ResourceDesc) : Option (List LevelLayout) :=
  (List.range d.levelCount.toNat).mapM fun level => levelLayout? d (UInt32.ofNat level)

namespace LevelLayout

/-- The extent of the level. -/
def extent (l : LevelLayout) : Extent := ⟨l.width, l.height, l.depth⟩

/-- The front of a payload as contents of the level, with zeros where it ends. -/
def contents (l : LevelLayout) (payload : List UInt8) : List UInt8 :=
  let front := payload.take l.size
  front ++ List.replicate (l.size - front.length) 0

end LevelLayout

/-! ## Writing -/

/-- The contents of a level of a layer. -/
structure Upload where
  level : UInt32
  layer : UInt32
  layout : LevelLayout
  contents : List UInt8
deriving DecidableEq, Repr

/-- The uploads of the levels of a layer from a level on, as far as the payload
    reaches, and what remains of it. -/
def layerUploads (layer level : UInt32) :
    List LevelLayout → List UInt8 → List Upload × List UInt8
  | [], payload => ([], payload)
  | _ :: _, [] => ([], [])
  | layout :: more, payload =>
    let (uploads, rest) := layerUploads layer (level + 1) more (payload.drop layout.size)
    (⟨level, layer, layout, layout.contents payload⟩ :: uploads, rest)

/-- The uploads of a number of layers from a layer on, as far as the payload reaches.
    One layer follows the other, and levels vary fastest. -/
def uploads (layouts : List LevelLayout) :
    (layers : Nat) → (layer : UInt32) → List UInt8 → List Upload
  | 0, _, _ => []
  | _ + 1, _, [] => []
  | layers + 1, layer, payload =>
    let (first, rest) := layerUploads layer 0 layouts payload
    first ++ uploads layouts layers (layer + 1) rest

/-- The uploads for the payload of a texture.  Depth and multisampled textures cannot
    be written and stay cleared. -/
def textureUploads (d : ResourceDesc) (layouts : List LevelLayout) (payload : List UInt8) :
    List Upload :=
  if d.format.isDepth ∨ 1 < d.sampleCount then []
  else uploads layouts d.layerCount.toNat 0 payload

/-- The write of an upload. -/
def Upload.write (u : Upload) (texture : Object .texture) : TextureWrite where
  place := ⟨texture, u.level, u.layer, .all⟩
  contents := u.contents
  layout := ⟨u.layout.row, u.layout.height⟩
  size := u.layout.extent

/-! ## Reading back -/

/-- Rows of a buffer that texels are copied to start at multiples of this. -/
def rowAlignment : Nat := 256

/-- The bytes from row to row in a buffer; `none` if they are no word. -/
def rowPitch? (row : UInt32) : Option UInt32 :=
  let pitch := roundUp row.toNat rowAlignment
  if pitch < UInt32.size then some (UInt32.ofNat pitch) else none

/-- The bytes of a buffer for padded rows. -/
def stagingSize (pitch height depth : UInt32) : Except ArithmeticError UInt64 :=
  checkedLong (pitch.toNat * height.toNat * depth.toNat)

/-- The level of a subresource. -/
def subresourceLevel (d : ResourceDesc) (subresource : UInt32) : UInt32 :=
  subresource % d.levelCount

/-- The layer of a subresource. -/
def subresourceLayer (d : ResourceDesc) (subresource : UInt32) : UInt32 :=
  subresource / d.levelCount

/-- The place of a subresource in its texture; a volume has only one layer. -/
def subresourcePlace (d : ResourceDesc) (texture : Object .texture) (subresource : UInt32) :
    Place where
  texture := texture
  level := subresourceLevel d subresource
  layer := if d.dimension = .texture3d then 0 else subresourceLayer d subresource
  aspect := if d.format.isDepth then .depthOnly else .all

end ShaderConformance.Gpu
