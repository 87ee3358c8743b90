import ShaderConformance.Bytes
import ShaderConformance.Gpu.Call
import ShaderConformance.Gpu.Simulated.Formats
import ShaderConformance.Resource.Description

/-!
# Contents of simulated objects

A simulated device keeps the bytes of buffers and of the levels of textures.  Copies
move rows of bytes, and a pass that clears an attachment fills a layer; a row that does
not lie within both sides is left out.
-/

namespace ShaderConformance.Gpu.Simulated

/-- Copies a number of bytes from an offset to another one, if they lie in both arrays. -/
def copySpan (source : ByteArray) (start : Nat) (target : ByteArray) (offset size : Nat) :
    ByteArray :=
  if start + size ≤ source.size ∧ offset + size ≤ target.size then
    source.copySlice start target offset size
  else target

/-- Where rows of bytes start. -/
structure Rows where
  start : Nat
  rowStep : Nat
  imageStep : Nat

/-- The offset of a row of an image. -/
def Rows.offset (r : Rows) (image row : Nat) : Nat :=
  r.start + image * r.imageStep + row * r.rowStep

/-- Copies the rows of a number of images. -/
def copyRows (source : ByteArray) (a : Rows) (target : ByteArray) (b : Rows)
    (size rows images : Nat) : ByteArray :=
  (List.range images).foldl (fun target image =>
    (List.range rows).foldl (fun target row =>
      copySpan source (a.offset image row) target (b.offset image row) size) target) target

/-- A level of a texture with all of its layers or slices. -/
structure Level where
  width : Nat
  height : Nat
  texelBytes : Nat
  data : ByteArray

namespace Level

/-- The bytes of a row. -/
def rowBytes (l : Level) : Nat := l.width * l.texelBytes

/-- The bytes of a layer or slice. -/
def layerBytes (l : Level) : Nat := l.rowBytes * l.height

/-- The rows from a layer on. -/
def rows (l : Level) (layer : Nat) : Rows := ⟨layer * l.layerBytes, l.rowBytes, l.layerBytes⟩

/-- Copies rows of bytes over a region. -/
def write (l : Level) (layer : Nat) (source : ByteArray) (rows : Rows) (size : Extent) : Level :=
  { l with data := copyRows source rows l.data (l.rows layer) (size.width.toNat * l.texelBytes)
             size.height.toNat size.depthOrLayers.toNat }

/-- Copies a region to rows of bytes. -/
def read (l : Level) (layer : Nat) (target : ByteArray) (rows : Rows) (size : Extent) :
    ByteArray :=
  copyRows l.data (l.rows layer) target rows (size.width.toNat * l.texelBytes)
    size.height.toNat size.depthOrLayers.toNat

/-- Fills a layer with copies of a texel. -/
def fillLayer (l : Level) (layer : Nat) (texel : List UInt8) : Level :=
  let filled := repeated texel l.layerBytes
  { l with data := copySpan filled 0 l.data (layer * l.layerBytes) l.layerBytes }

end Level

/-- The rows of bytes that a layout describes. -/
def Rows.ofLayout (layout : RowLayout) : Rows :=
  ⟨0, layout.bytesPerRow.toNat, layout.bytesPerRow.toNat * layout.rowsPerImage.toNat⟩

/-- The most bytes of which contents are kept. -/
def keptBytes : Nat := Nat.pow 2 24

/-- The bytes of a level of a texture. -/
def levelBytes (desc : TextureDescription) (level : UInt32) : Nat :=
  let images :=
    if desc.dimension = .d3 then extentAt desc.size.depthOrLayers level
    else desc.size.depthOrLayers
  (extentAt desc.size.width level).toNat * (extentAt desc.size.height level).toNat *
    images.toNat * Simulated.texelBytes desc.format

/-- A level of zeros. -/
def emptyLevel (desc : TextureDescription) (level : UInt32) : Level where
  width := (extentAt desc.size.width level).toNat
  height := (extentAt desc.size.height level).toNat
  texelBytes := Simulated.texelBytes desc.format
  data := zeros (levelBytes desc level)

/-- The bytes of a texel after a clear, for the formats that can be cleared. -/
def clearedTexel? (format : TextureFormat) (colour : Vector Double 4) : Option (List UInt8) :=
  let components (count : Nat) := (colour.toList.take count).flatMap fun x =>
    wordBytes x.toSingle.bits
  match format with
  | .rgba32Float => some (components 4)
  | .rg32Float => some (components 2)
  | .r32Float => some (components 1)
  | _ => none

end ShaderConformance.Gpu.Simulated
