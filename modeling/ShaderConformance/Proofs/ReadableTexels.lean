import ShaderConformance.Proofs.CommandReading
import ShaderConformance.Proofs.FirstMismatch
import ShaderConformance.Run.Commands

/-!
# Texels that can be decoded

What was read back has rows and slices behind one another, each with room for its texels.  A probe
that such contents pass the checks for finds every texel that it looks for, and as many components
as it expects.

## Main definitions

- `Readback.IsLaidOut`: contents with room for all texels, which have the size of the format
- `ValueKind.width`: how many bytes a component takes in a texel

## Main statements

- `Readback.exists_texel`: every texel of such contents is there
- `ValueKind.isSome_component?_iff`: a component can be decoded if the texel has its bytes
- `ValueKind.width_le_of_fits`: a value that fits leaves no byte of a texel behind
- `Readback.decodes_of_checkProbe`: every texel of a rectangle is decoded
-/

namespace ShaderConformance

namespace Readback

/-- Every row has room for its texels, there are bytes for all rows of all slices, and the size of
    a texel is that of the format, if there is one. -/
structure IsLaidOut (r : Readback) : Prop where
  texel : r.format = .unknown ∨ r.texelSize = r.format.texelSize.toNat
  row : r.width.toNat * r.texelSize ≤ r.rowPitch
  data : r.rowPitch * r.height.toNat * r.depth.toNat ≤ r.data.size
  /-- The bytes are in memory. -/
  addressable : r.data.size < UInt64.size

variable {r : Readback} {x y z : ℕ}

/-- The offset of a texel if there were no end to the address space. -/
def place (r : Readback) (x y z : ℕ) : ℕ :=
  z * (r.rowPitch * r.height.toNat) + y * r.rowPitch + x * r.texelSize

/-- An item ends where the items up to a later one do, or before. -/
theorem mul_add_le {i n : ℕ} (h : i < n) (size : ℕ) : i * size + size ≤ n * size := by
  rw [← Nat.succ_mul]
  exact Nat.mul_le_mul_right _ h

/-- A texel ends where its row does, or before. -/
theorem place_add_le (hrow : r.width.toNat * r.texelSize ≤ r.rowPitch) (hx : x < r.width.toNat)
    (hy : y < r.height.toNat) (hz : z < r.depth.toNat) :
    r.place x y z + r.texelSize ≤ r.rowPitch * r.height.toNat * r.depth.toNat := by
  have hend := (mul_add_le hx r.texelSize).trans hrow
  have hslice := mul_add_le hy r.rowPitch
  have hslices := mul_add_le hz (r.rowPitch * r.height.toNat)
  rw [Nat.mul_comm r.height.toNat] at hslice
  rw [Nat.mul_comm r.depth.toNat] at hslices
  rw [place]
  omega

/-- The offset of a texel within the extents is computed if the bytes of all rows can be counted. -/
theorem texelOffset_eq_place (hrow : r.width.toNat * r.texelSize ≤ r.rowPitch)
    (hcountable : r.rowPitch * r.height.toNat * r.depth.toNat < UInt64.size)
    (hx : x < r.width.toNat) (hy : y < r.height.toNat) (hz : z < r.depth.toNat) :
    r.texelOffset x y z = .ok (r.place x y z) := by
  have hend := place_add_le hrow hx hy hz
  have hslice : r.rowPitch * r.height.toNat ≤ r.rowPitch * r.height.toNat * r.depth.toNat :=
    Nat.le_mul_of_pos_right _ (Nat.zero_lt_of_lt hz)
  exact if_pos ⟨by omega, by rw [place] at hend; omega⟩

/-- Bytes that lie within data can be read. -/
theorem exists_bytesAt? {data : ByteArray} {offset size : ℕ} (h : offset + size ≤ data.size) :
    ∃ bytes, bytesAt? data offset size = some bytes ∧ bytes.length = size := by
  refine ⟨_, if_pos h, ?_⟩
  rw [Array.length_toList]
  change (data.extract offset (offset + size)).size = size
  rw [ByteArray.size_extract]
  omega

/-- Every texel within the extents is looked for at its place. -/
theorem texel_eq (hrow : r.width.toNat * r.texelSize ≤ r.rowPitch)
    (hcountable : r.rowPitch * r.height.toNat * r.depth.toNat < UInt64.size)
    (hx : x < r.width.toNat) (hy : y < r.height.toNat) (hz : z < r.depth.toNat) :
    r.texel x y z = .ok (bytesAt? r.data (r.place x y z) r.texelSize) := by
  rw [texel, if_pos ⟨hx, hy, hz⟩, texelOffset_eq_place hrow hcountable hx hy hz]
  rfl

/-- What is found breaks nothing off. -/
theorem texel?_eq_some_iff {bytes : List UInt8} :
    r.texel? x y z = some bytes ↔ r.texel x y z = .ok (some bytes) := by
  unfold texel?
  split
  · rename_i found hfound
    rw [hfound, Except.ok.injEq]
  · rename_i e hbroken
    simp [hbroken]

/-- Every texel is there, and has its size. -/
theorem exists_texel (h : r.IsLaidOut) (hx : x < r.width.toNat) (hy : y < r.height.toNat)
    (hz : z < r.depth.toNat) :
    ∃ texel, r.texel? x y z = some texel ∧ texel.length = r.texelSize := by
  obtain ⟨bytes, hbytes, hlength⟩ := exists_bytesAt? ((place_add_le h.row hx hy hz).trans h.data)
  refine ⟨bytes, texel?_eq_some_iff.mpr ?_, hlength⟩
  rw [texel_eq h.row (h.data.trans_lt h.addressable) hx hy hz, hbytes]

end Readback

/-! ## Components -/

theorem exists_componentBytes? {texel : List UInt8} {size i : ℕ}
    (h : (i + 1) * size ≤ texel.length) : ∃ bytes, componentBytes? texel size i = some bytes := by
  have hlength : ((texel.drop (i * size)).take size).length = size := by
    rw [Nat.add_one_mul] at h
    rw [List.length_take, List.length_drop]
    omega
  exact ⟨_, if_pos hlength⟩

/-- The components of a format fill its texels. -/
theorem Format.componentCount_mul_readSize {f : Format} (hf : f ≠ .unknown) :
    f.componentCount.toNat * f.readSize = f.texelSize.toNat := by
  revert hf
  cases f <;> decide

namespace ValueKind

variable {k : ValueKind} {r : Readback} {xs : List k.Value}

/-- The bytes that a component takes in texels of a format; those of 64 bits are read from texels
    of every format. -/
def width : ValueKind → Format → ℕ
  | single, f | int32, f | uint32, f => f.readSize
  | double, _ | int64, _ | uint64, _ => 8

/-- A component can be decoded if the texel has its bytes. -/
theorem exists_component? {f : Format} {texel : List UInt8} {i : ℕ}
    (h : (i + 1) * k.width f ≤ texel.length) : ∃ v, k.component? f texel i = some v := by
  obtain ⟨bytes, hbytes⟩ := exists_componentBytes? h
  cases k with
  | single | int32 | uint32 =>
    simp [component?, Format.componentNumber?, Format.componentInteger?, Format.componentBits?,
      show componentBytes? texel f.readSize i = some bytes from hbytes]
  | double | int64 | uint64 =>
    simp [component?, componentLong?, show componentBytes? texel 8 i = some bytes from hbytes]

/-- A texel is decoded into as many components as it has the bytes of. -/
theorem exists_decoded {f : Format} {texel : List UInt8} {n : ℕ}
    (h : n * k.width f ≤ texel.length) : ∃ ys : List k.Value,
      List.Forall₂ (fun i y => k.component? f texel i = some y) (List.range n) ys := by
  induction n with
  | zero => exact ⟨[], .nil⟩
  | succ n ih =>
    obtain ⟨ys, hys⟩ := ih ((Nat.mul_le_mul_right _ (Nat.le_succ n)).trans h)
    obtain ⟨y, hy⟩ := exists_component? h
    rw [List.range_succ]
    exact ⟨ys ++ [y], List.rel_append hys (.cons hy .nil)⟩

/-- The components of a value that fits lie in a texel. -/
theorem width_le_of_fits (h : r.IsLaidOut) (hfits : (k.pack xs).fits r = true) :
    xs.length * k.width r.format ≤ r.texelSize := by
  -- Values of 32 bits are counted and those of 64 bits are measured, unless there is no format.
  have hword (hsize : k.codec.size = 4) : xs.length * r.format.readSize ≤ r.texelSize := by
    simp only [ProbeValue.fits, ProbeValue.byteSize, length_pack, componentSize_pack, hsize]
      at hfits
    by_cases hunknown : r.format = .unknown
    · -- Elements without a format are read as words.
      simpa [hunknown, Format.readSize, Format.componentSize, Format.texelSize, Format.layout]
        using hfits
    · have hcount : xs.length ≤ r.format.componentCount.toNat := by simpa [hunknown] using hfits
      calc xs.length * r.format.readSize
        _ ≤ r.format.componentCount.toNat * r.format.readSize := Nat.mul_le_mul_right _ hcount
        _ = r.format.texelSize.toNat := Format.componentCount_mul_readSize hunknown
        _ = r.texelSize := (h.texel.resolve_left hunknown).symm
  have hlong (hsize : k.codec.size = 8) : xs.length * 8 ≤ r.texelSize := by
    simpa [ProbeValue.fits, ProbeValue.byteSize, hsize] using hfits
  cases k with
  | single => exact hword rfl
  | int32 => exact hword rfl
  | uint32 => exact hword rfl
  | double => exact hlong rfl
  | int64 => exact hlong rfl
  | uint64 => exact hlong rfl

end ValueKind

/-! ## Checked probes -/

namespace Readback

variable {r : Readback} {area : ProbeRect} {value : ProbeValue}

/-- A probe is made if its value fits and its rectangle lies within the readback. -/
theorem checkProbe_eq_ok_iff : Step.checkProbe r area value = .ok () ↔
    value.fits r = true ∧ area.right.toNat ≤ r.width.toNat ∧ area.bottom.toNat ≤ r.height.toNat ∧
      area.layer.toNat < r.depth.toNat := by
  unfold Step.checkProbe
  simp only [UInt32.lt_iff_toNat_lt, UInt32.le_iff_toNat_le]
  -- The value is checked before the rectangle.
  by_cases hfits : value.fits r = true
  · rw [if_neg (not_not.mpr hfits)]
    split
    · rename_i hrange
      constructor
      · exact nofun
      · rintro ⟨-, hright, hbottom, hlayer⟩
        omega
    · rename_i hrange
      simp only [hfits, true_and, true_iff]
      omega
  · rw [if_pos hfits]
    constructor
    · exact nofun
    · rintro ⟨hvalue, -⟩
      exact absurd hvalue hfits

/-- Every texel of a rectangle that contents pass the checks for is decoded into as many components
    as are expected. -/
theorem decodes_of_checkProbe (h : r.IsLaidOut) (hcheck : Step.checkProbe r area value = .ok ())
    {x y : ℕ} (hcontains : area.Contains x y) :
    ∃ got, r.Decodes value x y area.layer.toNat got := by
  obtain ⟨hfits, hright, hbottom, hlayer⟩ := checkProbe_eq_ok_iff.mp hcheck
  obtain ⟨⟨-, hx⟩, -, hy⟩ := hcontains
  obtain ⟨k, xs, rfl⟩ := ValueKind.exists_pack value
  obtain ⟨texel, htexel, hlength⟩ :=
    exists_texel h (hx.trans_le hright) (hy.trans_le hbottom) hlayer
  obtain ⟨ys, hys⟩ := ValueKind.exists_decoded (hlength ▸ ValueKind.width_le_of_fits h hfits)
  exact ⟨k.pack ys, texel, htexel, k, xs, ys, rfl, rfl, hys⟩

/-- What a texel is decoded into has as many components as are expected. -/
theorem Decodes.length_eq {x y z : ℕ} {got : ProbeValue} (h : r.Decodes value x y z got) :
    got.length = value.length := by
  obtain ⟨texel, -, k, xs, ys, rfl, rfl, hys⟩ := h
  rw [ValueKind.length_pack, ValueKind.length_pack, ← hys.length_eq, List.length_range]

end Readback

end ShaderConformance
