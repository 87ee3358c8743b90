import ShaderConformance.Bytes
import ShaderConformance.Format
import ShaderConformance.Floating.Number

/-!
# Contents that were read back

One subresource, copied back from the device: rows of texels, rows in slices, with
padding between the rows.  A texel is found by its coordinates, unless its place is
beyond the address space, and its components are decoded by its format.
-/

namespace ShaderConformance

/-- The contents of a subresource. -/
structure Readback where
  format : Format
  width : UInt32
  height : UInt32
  depth : UInt32
  /-- Bytes from the start of a row to the start of the next one. -/
  rowPitch : Nat
  /-- Bytes of a texel or buffer element. -/
  texelSize : Nat
  data : ByteArray

/-- The bytes of a part of an array, if the part lies in it. -/
def bytesAt? (data : ByteArray) (offset size : Nat) : Option (List UInt8) :=
  if offset + size ≤ data.size then some (data.extract offset (offset + size)).data.toList
  else none

namespace Readback

/-- The offset of a texel, if the address space has room for a slice and for all that is
    up to the end of the texel. -/
def texelOffset (r : Readback) (x y z : Nat) : Except ArithmeticError Nat :=
  let slice := r.rowPitch * r.height.toNat
  let offset := z * slice + y * r.rowPitch + x * r.texelSize
  if slice < UInt64.size ∧ offset + r.texelSize < UInt64.size then .ok offset
  else .error .overflow

/-- Looks for the texel at some coordinates; its bytes, if it is there. -/
def texel (r : Readback) (x y z : Nat) : Except ArithmeticError (Option (List UInt8)) :=
  if x < r.width.toNat ∧ y < r.height.toNat ∧ z < r.depth.toNat then
    (r.texelOffset x y z).map fun offset => bytesAt? r.data offset r.texelSize
  else .ok none

/-- The bytes of the texel at some coordinates.  There are none if its place is beyond
    the address space. -/
def texel? (r : Readback) (x y z : Nat) : Option (List UInt8) :=
  match r.texel x y z with
  | .ok found => found
  | .error _ => none

end Readback

/-! ## Components of a texel -/

/-- The bytes of one of several components of one size. -/
def componentBytes? (texel : List UInt8) (size index : Nat) : Option (List UInt8) :=
  let bytes := (texel.drop (index * size)).take size
  if bytes.length = size then some bytes else none

namespace Format

/-- The size of a component that is read from a texel; elements without a format are
    read as 32-bit words. -/
def readSize (f : Format) : Nat := if f.componentSize = 0 then 4 else f.componentSize.toNat

/-- The bits of a component. -/
def componentBits? (f : Format) (texel : List UInt8) (index : Nat) : Option UInt32 :=
  (componentBytes? texel f.readSize index).map fun bytes => UInt32.ofNat (littleEndian bytes)

/-- A component of a given type and size as a number.  Normalised components are
    fractions of the largest value of their type, signed ones not below minus one. -/
def numberOfBits (type : ComponentType) (size : Nat) (bits : UInt32) : Single :=
  let byte := bits.toUInt8
  let short := bits.toUInt16
  match type, size with
  | .float, 2 => .ofHalf short
  | .float, _ | .typeless, _ => ⟨bits⟩
  | .unorm, 1 => .ofRatio false bits.toNat 255
  | .unorm, 2 => .ofRatio false bits.toNat 65535
  | .snorm, 1 =>
    let n := byte.toInt8.toInt
    (Single.ofRatio (n < 0) n.natAbs 127).atLeast (.ofInt (-1))
  | .snorm, 2 =>
    let n := short.toInt16.toInt
    (Single.ofRatio (n < 0) n.natAbs 32767).atLeast (.ofInt (-1))
  | .sint, 1 => .ofInt byte.toInt8.toInt
  | .sint, 2 => .ofInt short.toInt16.toInt
  | .sint, _ => .ofInt bits.toInt32.toInt
  | _, _ => .ofInt bits.toNat

/-- A component as a number.  The depth of the packed depth-stencil format is a
    fraction of the largest 24-bit value. -/
def componentNumber? (f : Format) (texel : List UInt8) (index : Nat) : Option Single :=
  (f.componentBits? texel index).map fun bits =>
    if f = .d24UnormS8Uint then .ofRatio false (bits.toNat % Nat.pow 2 24) (Nat.pow 2 24 - 1)
    else numberOfBits f.componentType f.componentSize.toNat bits

/-- The bits of a component of a given type and size as a 32-bit integer; signed
    components are extended. -/
def integerOfBits (type : ComponentType) (size : Nat) (bits : UInt32) : UInt32 :=
  if type = .sint ∨ type = .snorm then
    match size with
    | 1 => bits.toUInt8.toInt8.toInt32.toUInt32
    | 2 => bits.toUInt16.toInt16.toInt32.toUInt32
    | _ => bits
  else bits

/-- A component as a 32-bit integer. -/
def componentInteger? (f : Format) (texel : List UInt8) (index : Nat) : Option UInt32 :=
  (f.componentBits? texel index).map
    (integerOfBits f.componentType f.componentSize.toNat)

end Format

/-- A component of 64 bits, whatever the format of the texel. -/
def componentLong? (texel : List UInt8) (index : Nat) : Option UInt64 :=
  (componentBytes? texel 8 index).map fun bytes => UInt64.ofNat (littleEndian bytes)

end ShaderConformance
