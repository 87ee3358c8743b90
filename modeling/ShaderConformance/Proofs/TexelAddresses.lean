import Mathlib.Order.Bounds.Defs
import ShaderConformance.Proofs.ReadableTexels

/-!
# Where texels lie

The texels of contents that were read back lie in rows with padding between them, and slices of
rows behind one another.  If rows have room for their texels and there are bytes for all rows, then
the texels within the extents are exactly those that are found, each has its own bytes, and no two
share any.

## Main definitions

- `Readback.IsPadded`: contents with room for all texels, whose offsets do not overflow
- `Readback.Apart`: the bytes of one texel end before those of another, or begin after them
- `Readback.Addresses`: the texels within the extents are found, and apart from each other

## Main statements

- `Readback.apart_of_ne`: different coordinates have their texels apart
- `Readback.addresses_of_isPadded`: what the room for all texels is good for
-/

namespace ShaderConformance.Readback

/-- Every row has room for its texels, there are bytes for all rows of all slices, and these can
    be counted. -/
structure IsPadded (r : Readback) : Prop where
  row : r.width.toNat * r.texelSize ≤ r.rowPitch
  data : r.rowPitch * r.height.toNat * r.depth.toNat ≤ r.data.size
  countable : r.rowPitch * r.height.toNat * r.depth.toNat < UInt64.size

/-- Some coordinates are within the extents. -/
structure Within (r : Readback) (x y z : ℕ) : Prop where
  x_lt : x < r.width.toNat
  y_lt : y < r.height.toNat
  z_lt : z < r.depth.toNat

/-- The bytes of a texel end before those of another one, or begin after them. -/
def Apart (r : Readback) (x y z x' y' z' : ℕ) : Prop :=
  r.place x y z + r.texelSize ≤ r.place x' y' z' ∨ r.place x' y' z' + r.texelSize ≤ r.place x y z

/-- The texels within the extents are found, each with its own bytes of the data. -/
structure Addresses (r : Readback) : Prop where
  /-- No search breaks off. -/
  exists_found : ∀ x y z, ∃ found, r.texel x y z = .ok found
  isSome_iff : ∀ x y z, (r.texel? x y z).isSome = true ↔ r.Within x y z
  /-- The offset that is computed is the place of the texel. -/
  offset : ∀ {x y z}, r.Within x y z → r.texelOffset x y z = .ok (r.place x y z)
  length : ∀ {x y z texel}, r.texel? x y z = some texel → texel.length = r.texelSize
  bytes : ∀ {x y z texel}, r.texel? x y z = some texel →
    ∀ i < r.texelSize, texel[i]? = r.data.data[r.place x y z + i]?
  inside : ∀ {x y z}, r.Within x y z → r.place x y z + r.texelSize ≤ r.data.size
  apart : ∀ {x y z x' y' z'}, r.Within x y z → r.Within x' y' z' → (x, y, z) ≠ (x', y', z') →
    r.Apart x y z x' y' z'

variable {r : Readback} {x y z x' y' z' : ℕ}

/-! ## Offsets -/

/-- Texels of one slice, in an order of rows. -/
theorem place_add_le_of_row_lt (hrow : r.width.toNat * r.texelSize ≤ r.rowPitch)
    (hx : x < r.width.toNat) (hlt : y < y') : r.place x y z + r.texelSize ≤ r.place x' y' z := by
  have hend := (mul_add_le hx r.texelSize).trans hrow
  have hrows := mul_add_le hlt r.rowPitch
  rw [place, place]
  omega

/-- Texels of different slices. -/
theorem place_add_le_of_slice_lt (hrow : r.width.toNat * r.texelSize ≤ r.rowPitch)
    (hin : r.Within x y z) (hlt : z < z') : r.place x y z + r.texelSize ≤ r.place x' y' z' := by
  -- The texel lies in its slice, which ends where the next one begins.
  have hend := (mul_add_le hin.x_lt r.texelSize).trans hrow
  have hslice := mul_add_le hin.y_lt r.rowPitch
  have hslices := mul_add_le hlt (r.rowPitch * r.height.toNat)
  rw [Nat.mul_comm r.height.toNat] at hslice
  rw [place, place]
  omega

/-- Texels of one row. -/
theorem place_add_le_of_lt (hlt : x < x') : r.place x y z + r.texelSize ≤ r.place x' y z := by
  have htexels := mul_add_le hlt r.texelSize
  rw [place, place]
  omega

/-- Different coordinates have their texels apart: slices first, then rows, then texels. -/
theorem apart_of_ne (h : r.IsPadded) (hin : r.Within x y z) (hin' : r.Within x' y' z')
    (hne : (x, y, z) ≠ (x', y', z')) : r.Apart x y z x' y' z' := by
  obtain hslice | rfl | hslice := Nat.lt_trichotomy z z'
  · exact .inl (place_add_le_of_slice_lt h.row hin hslice)
  · obtain hrow | rfl | hrow := Nat.lt_trichotomy y y'
    · exact .inl (place_add_le_of_row_lt h.row hin.x_lt hrow)
    · obtain hlt | rfl | hlt := Nat.lt_trichotomy x x'
      · exact .inl (place_add_le_of_lt hlt)
      · exact absurd rfl hne
      · exact .inr (place_add_le_of_lt hlt)
    · exact .inr (place_add_le_of_row_lt h.row hin'.x_lt hrow)
  · exact .inr (place_add_le_of_slice_lt h.row hin' hslice)

/-! ## Texels -/

/-- Bytes that are read are those of the data, in order. -/
theorem bytesAt?_eq_some {data : ByteArray} {offset size : ℕ} {bytes : List UInt8}
    (h : bytesAt? data offset size = some bytes) :
    bytes.length = size ∧ ∀ i < size, bytes[i]? = data.data[offset + i]? := by
  unfold bytesAt? at h
  split at h
  · rename_i hfits
    obtain rfl := Option.some.inj h
    have hsize : data.size = data.data.size := rfl
    constructor
    · simp only [ByteArray.data_extract, Array.length_toList, Array.size_extract]
      omega
    · intro i hi
      rw [Array.getElem?_toList, ByteArray.data_extract, Array.getElem?_extract_of_lt (by omega),
        Array.getElem?_eq_getElem]
  · cases h

/-- A texel that is found lies within the extents, at its place. -/
theorem within_of_texel? (h : r.IsPadded) {texel : List UInt8}
    (htexel : r.texel? x y z = some texel) :
    r.Within x y z ∧ bytesAt? r.data (r.place x y z) r.texelSize = some texel := by
  have hfound := texel?_eq_some_iff.mp htexel
  by_cases hin : x < r.width.toNat ∧ y < r.height.toNat ∧ z < r.depth.toNat
  · obtain ⟨hx, hy, hz⟩ := hin
    rw [texel_eq h.row h.countable hx hy hz, Except.ok.injEq] at hfound
    exact ⟨⟨hx, hy, hz⟩, hfound⟩
  · rw [Readback.texel, if_neg hin] at hfound
    cases hfound

/-- A texel within the extents lies in the data. -/
theorem inside_of_within (h : r.IsPadded) (hin : r.Within x y z) :
    r.place x y z + r.texelSize ≤ r.data.size :=
  (place_add_le h.row hin.x_lt hin.y_lt hin.z_lt).trans h.data

/-- With room for all texels, those within the extents are found, and no two share a byte. -/
theorem addresses_of_isPadded (h : r.IsPadded) : r.Addresses where
  exists_found x y z := by
    -- Inside the extents no step of the arithmetic overflows; outside them none is taken.
    by_cases hin : x < r.width.toNat ∧ y < r.height.toNat ∧ z < r.depth.toNat
    · exact ⟨_, texel_eq h.row h.countable hin.1 hin.2.1 hin.2.2⟩
    · exact ⟨none, if_neg hin⟩
  isSome_iff x y z := by
    constructor
    · intro hsome
      obtain ⟨texel, htexel⟩ := Option.isSome_iff_exists.mp hsome
      exact (within_of_texel? h htexel).1
    · intro hin
      obtain ⟨texel, htexel, -⟩ := exists_bytesAt? (inside_of_within h hin)
      have hfound := texel_eq h.row h.countable hin.x_lt hin.y_lt hin.z_lt
      rw [htexel] at hfound
      rw [texel?_eq_some_iff.mpr hfound]
      rfl
  offset hin := texelOffset_eq_place h.row h.countable hin.x_lt hin.y_lt hin.z_lt
  length htexel := (bytesAt?_eq_some (within_of_texel? h htexel).2).1
  bytes htexel := (bytesAt?_eq_some (within_of_texel? h htexel).2).2
  inside := inside_of_within h
  apart := apart_of_ne h

end ShaderConformance.Readback
