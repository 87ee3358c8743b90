import Mathlib.Algebra.Ring.Nat
import Mathlib.Order.Bounds.Defs
import ShaderConformance.Proofs.AcceptedBlocks

/-!
# Mip levels

From each level to the next one the extents of a resource are halved, rounding down but never below
one.  Words are shifted by less than their number of bits only, and later levels have ones, so this
holds for every level that a word can count.  Levels can be counted on from any of them, and the
first one with a single texel is the last one that a resource can have.

## Main definitions

- `halved`: an extent that is halved some times, as a number of any size
- `ResourceDesc.extents`, `ResourceDesc.levelExtents`: the extents of a resource and of its levels
- `ResourceDesc.IsSingle`: a level with a single texel

## Main statements

- `toNat_extentAt`: the words at a level are the extents halved so often
- `ResourceDesc.levelExtents_of_extents`: the levels of a level are those that follow it
- `ResourceDesc.isSingle_iff`: which levels have a single texel
- `ResourceDesc.maxLevelCount_eq_sub_clz`: the number of levels by the leading zeros of a word
- `ResourceDesc.mipChain_exact`: the arithmetic of levels
-/

namespace ShaderConformance

/-! ## Halving -/

/-- An extent that is halved some times, rounding down but never below one. -/
def halved (extent times : ℕ) : ℕ := max 1 (extent / 2 ^ times)

section Halving

variable {extent m n : ℕ}

/-- It makes no difference that an extent is kept above zero in between. -/
theorem halved_halved (extent m n : ℕ) : halved (halved extent m) n = halved extent (m + n) := by
  rw [halved, halved, halved, Nat.pow_add, ← Nat.div_div_eq_div_mul]
  obtain hzero | hpos := Nat.eq_zero_or_pos (extent / 2 ^ m)
  · -- What is left is one texel, which is not halved any further.
    have hone : 1 / 2 ^ n ≤ 1 := Nat.div_le_self 1 _
    rw [hzero, Nat.zero_div, Nat.max_eq_left (Nat.zero_le 1), Nat.max_eq_left hone]
  · rw [Nat.max_eq_right hpos]

/-- Later levels are not larger. -/
theorem halved_le (h : m ≤ n) : halved extent n ≤ halved extent m := by
  have hpow : 2 ^ m ≤ 2 ^ n := Nat.pow_le_pow_right (by decide) h
  have hdiv : extent / 2 ^ n ≤ extent / 2 ^ m := Nat.div_le_div_left hpow (Nat.two_pow_pos m)
  rw [halved, halved]
  omega

/-- An extent is down to one as soon as it has been halved often enough. -/
theorem halved_eq_one_iff : halved extent n = 1 ↔ extent < 2 ^ (n + 1) := by
  have hdiv : extent / 2 ^ n < 2 ↔ extent < 2 ^ (n + 1) := by
    rw [Nat.div_lt_iff_lt_mul (Nat.two_pow_pos n), Nat.pow_succ, Nat.mul_comm]
  rw [halved, ← hdiv]
  omega

end Halving

/-! ## Words -/

section Words

variable {extent level level' more : UInt32}

/-- The larger of two words is that of their numbers. -/
theorem toNat_max (v w : UInt32) : (max v w).toNat = max v.toNat w.toNat := by
  have hmax : max v w = if v ≤ w then w else v := rfl
  rw [hmax]
  split
  · rename_i hle
    exact (Nat.max_eq_right (UInt32.le_iff_toNat_le.mp hle)).symm
  · rename_i hle
    rw [UInt32.le_iff_toNat_le] at hle
    omega

/-- Words are halved like numbers of any size.  From level 32 on, where a shift would begin again,
    nothing is left of a word. -/
theorem toNat_extentAt (extent level : UInt32) :
    (extentAt extent level).toNat = halved extent.toNat level.toNat := by
  unfold extentAt halved
  split
  · rename_i hlevel
    have hlt : level.toNat < 32 := hlevel
    rw [toNat_max, UInt32.toNat_shiftRight, Nat.mod_eq_of_lt hlt,
      Nat.shiftRight_eq_div_pow, Nat.max_comm]
    rfl
  · rename_i hlevel
    have hle : 32 ≤ level.toNat := Nat.not_lt.mp hlevel
    have hbits : 2 ^ 32 ≤ 2 ^ level.toNat := Nat.pow_le_pow_right (by decide) hle
    rw [Nat.div_eq_of_lt (Nat.lt_of_lt_of_le extent.toNat_lt hbits)]
    rfl

/-- The largest word has a level for each bit. -/
example : extentAt 0xffffffff 30 = 3 ∧ extentAt 0xffffffff 31 = 1 ∧ extentAt 0xffffffff 33 = 1 := by
  decide

/-- Extents get no larger from level to level. -/
theorem extentAt_le (h : level ≤ level') : extentAt extent level' ≤ extentAt extent level := by
  rw [UInt32.le_iff_toNat_le, toNat_extentAt, toNat_extentAt]
  exact halved_le (UInt32.le_iff_toNat_le.mp h)

/-- An extent is one at the levels at which nothing is left to halve. -/
theorem extentAt_eq_one_iff : extentAt extent level = 1 ↔ extent.toNat < 2 ^ (level.toNat + 1) := by
  rw [← UInt32.toNat_inj, toNat_extentAt]
  exact halved_eq_one_iff

/-- The level of a level, if a word can count so far. -/
theorem extentAt_extentAt (h : level.toNat + more.toNat < UInt32.size) :
    extentAt (extentAt extent level) more = extentAt extent (level + more) := by
  rw [← UInt32.toNat_inj]
  calc (extentAt (extentAt extent level) more).toNat
    _ = halved (halved extent.toNat level.toNat) more.toNat := by
      rw [toNat_extentAt, toNat_extentAt]
    _ = halved extent.toNat (level.toNat + more.toNat) := halved_halved _ _ _
    _ = (extentAt extent (level + more)).toNat := by
      rw [toNat_extentAt, UInt32.toNat_add, Nat.mod_eq_of_lt h]

/-- Levels that a word cannot count any more have ones. -/
theorem extentAt_extentAt_of_le (h : UInt32.size ≤ level.toNat + more.toNat) :
    extentAt (extentAt extent level) more = 1 := by
  have hbits : 2 ^ 32 ≤ 2 ^ (level.toNat + more.toNat + 1) :=
    Nat.pow_le_pow_right (by decide) (Nat.le_trans (by decide) (Nat.le_succ_of_le h))
  rw [← UInt32.toNat_inj, toNat_extentAt, toNat_extentAt, halved_halved]
  exact halved_eq_one_iff.mpr (Nat.lt_of_lt_of_le extent.toNat_lt hbits)

end Words

/-! ## Levels -/

namespace ResourceDesc

variable (d : ResourceDesc)

/-- The extents of the resource: its width, its height and its depth. -/
def extents : List UInt32 := [d.width, d.height, d.depth]

/-- The extents of a level, in the same order. -/
def levelExtents (level : UInt32) : List UInt32 :=
  [d.levelWidth level, d.levelHeight level, d.levelDepth level]

/-- A level has a single texel. -/
def IsSingle (level : UInt32) : Prop := ∀ extent ∈ d.levelExtents level, extent = 1

variable {d} {e : ResourceDesc} {level level' more : UInt32}

/-- All extents of a level are halved equally often. -/
theorem levelExtents_eq (d : ResourceDesc) (level : UInt32) :
    d.levelExtents level = d.extents.map (extentAt · level) := rfl

/-- Levels have the halved extents. -/
theorem toNat_levelExtents (d : ResourceDesc) (level : UInt32) :
    (d.levelExtents level).map (·.toNat) =
      d.extents.map fun extent => halved extent.toNat level.toNat := by
  rw [levelExtents_eq, List.map_map]
  exact List.map_congr_left fun extent _ => toNat_extentAt extent level

/-- No extent grows from one level to a later one. -/
theorem levelExtents_le (d : ResourceDesc) (h : level ≤ level') :
    List.Forall₂ (· ≤ ·) (d.levelExtents level') (d.levelExtents level) := by
  rw [levelExtents_eq, levelExtents_eq, List.forall₂_map_left_iff, List.forall₂_map_right_iff,
    List.forall₂_same]
  exact fun extent _ => extentAt_le h

/-- The levels of a resource with the extents of a level are those that follow it. -/
theorem levelExtents_of_extents (he : e.extents = d.levelExtents level)
    (h : level.toNat + more.toNat < UInt32.size) :
    e.levelExtents more = d.levelExtents (level + more) := by
  rw [levelExtents_eq, he, levelExtents_eq, levelExtents_eq, List.map_map]
  exact List.map_congr_left fun extent _ => extentAt_extentAt h

/-- Beyond the width of a word every level has a single texel. -/
theorem isSingle_of_extents (he : e.extents = d.levelExtents level)
    (h : UInt32.size ≤ level.toNat + more.toNat) : e.IsSingle more := by
  rw [IsSingle, levelExtents_eq, he, levelExtents_eq, List.map_map]
  intro extent hmem
  obtain ⟨extent, -, rfl⟩ := List.mem_map.mp hmem
  exact extentAt_extentAt_of_le h

/-! ## The number of levels -/

/-- The largest extent is one at least. -/
theorem toNat_largestExtent (d : ResourceDesc) :
    (max (largestExtent d.width d.height d.depth) 1).toNat =
      max (max (max d.width.toNat d.height.toNat) d.depth.toNat) 1 := by
  rw [largestExtent, toNat_max, toNat_max, toNat_max]
  rfl

/-- The largest extent is not zero. -/
theorem largestExtent_ne_zero (d : ResourceDesc) :
    (max (largestExtent d.width d.height d.depth) 1).toNat ≠ 0 := by
  rw [toNat_largestExtent]
  omega

/-- A level has a single texel if it is the last one that the resource can have, or follows it. -/
theorem isSingle_iff : d.IsSingle level ↔ d.maxLevelCount ≤ level.toNat + 1 := by
  have hone : 1 < 2 ^ (level.toNat + 1) := Nat.one_lt_two_pow (Nat.succ_ne_zero _)
  calc d.IsSingle level
    _ ↔ d.width.toNat < 2 ^ (level.toNat + 1) ∧ d.height.toNat < 2 ^ (level.toNat + 1) ∧
        d.depth.toNat < 2 ^ (level.toNat + 1) := by
      simp [IsSingle, levelExtents_eq, extents, extentAt_eq_one_iff]
    _ ↔ (max (largestExtent d.width d.height d.depth) 1).toNat < 2 ^ (level.toNat + 1) := by
      rw [toNat_largestExtent]
      omega
    _ ↔ d.maxLevelCount ≤ level.toNat + 1 := by
      rw [← Nat.log2_lt d.largestExtent_ne_zero]
      exact Nat.lt_iff_add_one_le

/-- There are as many levels as the largest extent has bits, and these are what its leading zeros
    leave of a word. -/
theorem maxLevelCount_eq_sub_clz (d : ResourceDesc) : d.maxLevelCount =
    32 - (max (largestExtent d.width d.height d.depth) 1).toBitVec.clz.toNat := by
  rw [maxLevelCount]
  have hpos := d.largestExtent_ne_zero
  generalize max (largestExtent d.width d.height d.depth) 1 = largest at hpos ⊢
  have hne : largest.toBitVec ≠ 0#32 := fun hzero => hpos (congrArg BitVec.toNat hzero)
  have hzeros : largest.toBitVec.clz.toNat < 32 := BitVec.clz_lt_iff_ne_zero.mpr hne
  -- The highest bit is the one behind the leading zeros.
  have hbit : 2 ^ (31 - largest.toBitVec.clz.toNat) ≤ largest.toNat :=
    BitVec.two_pow_sub_clz_le_toNat_of_ne_zero (by decide) hne
  have hbits : largest.toNat < 2 ^ (31 - largest.toBitVec.clz.toNat + 1) := by
    have hlt : largest.toNat < 2 ^ (32 - largest.toBitVec.clz.toNat) :=
      BitVec.toNat_lt_two_pow_sub_clz
    rwa [show 31 - largest.toBitVec.clz.toNat + 1 = 32 - largest.toBitVec.clz.toNat by omega]
  rw [(Nat.log2_eq_iff hpos).mpr ⟨hbit, hbits⟩]
  omega

/-- There are as many levels as it takes to get to a single texel. -/
theorem isLeast_maxLevelCount (d : ResourceDesc) :
    IsLeast {n | ∃ level : UInt32, n = level.toNat + 1 ∧ d.IsSingle level} d.maxLevelCount := by
  constructor
  · have hle := d.maxLevelCount_le
    have hpos : 0 < d.maxLevelCount := Nat.succ_pos _
    have hword : (UInt32.ofNat (d.maxLevelCount - 1)).toNat = d.maxLevelCount - 1 :=
      UInt32.toNat_ofNat_of_lt' (by rw [UInt32.size]; omega)
    refine ⟨.ofNat (d.maxLevelCount - 1), by omega, isSingle_iff.mpr ?_⟩
    omega
  · rintro n ⟨level, rfl, hsingle⟩
    exact isSingle_iff.mp hsingle

/-- The arithmetic of levels, for all extents and levels.  The extents of a level are those of the
    resource, halved once for each level but never below one, and none grows from one level to a
    later one.  The levels of a resource with the extents of a level are those that follow it, and
    behind the last one that can be counted there is a single texel.  The number of levels is the
    least one of which the last is a single texel, and no word allows for more than its bits. -/
theorem mipChain_exact (d : ResourceDesc) :
    (∀ level, (d.levelExtents level).map (·.toNat) =
      d.extents.map fun extent => max 1 (extent.toNat / 2 ^ level.toNat)) ∧
    (∀ level level', level ≤ level' →
      List.Forall₂ (· ≤ ·) (d.levelExtents level') (d.levelExtents level)) ∧
    (∀ level more (e : ResourceDesc), e.extents = d.levelExtents level →
      (level.toNat + more.toNat < UInt32.size →
        e.levelExtents more = d.levelExtents (level + more)) ∧
      (UInt32.size ≤ level.toNat + more.toNat → e.IsSingle more)) ∧
    IsLeast {n | ∃ level : UInt32, n = level.toNat + 1 ∧ d.IsSingle level} d.maxLevelCount ∧
    1 ≤ d.maxLevelCount ∧ d.maxLevelCount ≤ 32 :=
  ⟨d.toNat_levelExtents, fun _ _ h => d.levelExtents_le h,
    fun _ _ _ he => ⟨levelExtents_of_extents he, isSingle_of_extents he⟩,
    d.isLeast_maxLevelCount, Nat.succ_pos _, d.maxLevelCount_le⟩

end ResourceDesc

end ShaderConformance
