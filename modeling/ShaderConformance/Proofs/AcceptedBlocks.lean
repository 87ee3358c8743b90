import ShaderConformance.Proofs.Results
import ShaderConformance.Run.Resources

/-!
# Descriptions of accepted blocks

A resource block is accepted if each of its lines is, and if the levels that it asks for are
not more than its extents have.  No line takes the last level or the last layer away.

## Main definitions

- `ResourceDesc.IsAccepted`: the descriptions that accepted resource blocks stand for

## Main statements

- `ResourceDesc.IsAccepted.isCounted`: an accepted block has a level and a layer
- `ResourceDesc.IsAccepted.levelCount_le`: extents of 32 bits have at most 32 levels
-/

namespace ShaderConformance

open Text

/-! ## Accepted descriptions -/

namespace ResourceDesc

/-- A description that an accepted resource block stands for. -/
def IsAccepted (d : ResourceDesc) : Prop :=
  ∃ type slot lines block, (ResourceBlock.fresh type slot).takeLines lines = .ok block ∧
    Step.checkedDesc block = .ok d

/-- There is a level, and there is a layer. -/
structure IsCounted (d : ResourceDesc) : Prop where
  levels : d.levelCount ≠ 0
  layers : d.layerCount ≠ 0

/-- A fresh description has no count of zero. -/
theorem isCounted_fresh (type : ResourceType) (slot : UInt32) : (fresh type slot).IsCounted := by
  refine ⟨?_, ?_⟩ <;> simp [fresh]

end ResourceDesc

/-- The dimensions of a size, in the order in which they are written. -/
def Size.dimensions : Size → List UInt32
  | .buffer width _ _ => [width]
  | .texture2d width height => [width, height]
  | .texture2dMs samples width height => [samples, width, height]
  | .texture2dArray width height layers => [width, height, layers]
  | .texture3d width height depth => [width, height, depth]
  | .cube edge => [edge]

/-- A size has the dimensions that it was made from. -/
theorem Size.dimensions_of_ofDimensions? {kind : SizeKind} {dims : List UInt32} {size : Size}
    (h : ofDimensions? kind dims = some size) : size.dimensions = dims := by
  unfold ofDimensions? at h
  split at h <;> cases h <;> rfl

/-- A size that is read has no dimension that is zero. -/
theorem Size.ne_zero_of_read {text : Text} {size : Size} (hread : Size.read text = .ok size) :
    ∀ dimension ∈ size.dimensions, dimension ≠ 0 := by
  unfold Size.read at hread
  split at hread
  · cases hread
  · obtain ⟨dims, -, hkind⟩ := bind_eq_ok_iff.mp hread
    unfold sizeOfKind at hkind
    split at hkind
    · cases hkind
    · split at hkind
      · cases hkind
      · rename_i size hsize
        split at hkind
        · cases hkind
        · -- A size is refused if any of its dimensions is zero.
          rename_i hzero
          obtain rfl := Except.ok.inj hkind
          rw [Size.dimensions_of_ofDimensions? hsize]
          rintro dimension hmem rfl
          exact hzero (List.contains_iff_mem.mpr hmem)

namespace ResourceDesc.IsCounted

variable {d : ResourceDesc}

/-- A description with a size of which no dimension is zero. -/
theorem withSize (hd : d.IsCounted) {size : Size}
    (hsize : ∀ dimension ∈ size.dimensions, dimension ≠ 0) : (d.withSize size).IsCounted := by
  cases size with
  | buffer width raw counter => cases counter <;> exact ⟨hd.levels, hd.layers⟩
  | texture2dArray width height layers =>
    exact ⟨hd.levels, hsize layers (by simp [Size.dimensions])⟩
  | cube edge => exact ⟨hd.levels, by simp [ResourceDesc.withSize]⟩
  | _ => exact ⟨hd.levels, hd.layers⟩

end ResourceDesc.IsCounted

namespace ResourceBlock

variable {b b' : ResourceBlock} {s rest : Text} {l : Line}

/-- A format line that is taken says a format. -/
theorem formatLine_eq_ok (h : b.formatLine rest = .ok l) : ∃ f, l = .format f := by
  unfold formatLine at h
  dsimp only at h
  split at h
  · cases h
  · split at h
    · cases h
    · obtain ⟨_, -, h⟩ := bind_eq_ok_iff.mp h
      split at h
      · cases h
      · exact ⟨_, (Except.ok.inj h).symm⟩

/-- A stride line that is taken says a stride other than zero. -/
theorem strideLine_eq_ok (h : b.strideLine rest = .ok l) :
    ∃ bytes, bytes ≠ 0 ∧ l = .stride bytes := by
  unfold strideLine at h
  dsimp only at h
  split at h
  · cases h
  · obtain ⟨⟨bytes, _⟩, -, h⟩ := bind_eq_ok_iff.mp h
    obtain ⟨_, -, h⟩ := bind_eq_ok_iff.mp h
    dsimp only at h
    split at h
    · cases h
    · rename_i hbytes
      exact ⟨bytes, hbytes, (Except.ok.inj h).symm⟩

/-- A levels line that is taken says a number of levels other than zero. -/
theorem levelsLine_eq_ok (h : levelsLine rest = .ok l) :
    ∃ count, count ≠ 0 ∧ l = .levels count := by
  unfold levelsLine at h
  obtain ⟨⟨count, _⟩, -, h⟩ := bind_eq_ok_iff.mp h
  obtain ⟨_, -, h⟩ := bind_eq_ok_iff.mp h
  dsimp only at h
  split at h
  · cases h
  · rename_i hcount
    exact ⟨count, hcount, (Except.ok.inj h).symm⟩

/-- No dimension, stride or number of levels of a line is zero. -/
def Line.IsNonzero : Line → Prop
  | .stride bytes => bytes ≠ 0
  | .size extents => ∀ dimension ∈ extents.dimensions, dimension ≠ 0
  | .levels count => count ≠ 0
  | .format _ | .payload _ _ => True

/-- A line is a format, a stride, a size, a number of levels or contents, and the readers of
    numbers refuse zero. -/
theorem isNonzero_of_line (h : b.line s = .ok l) : l.IsNonzero := by
  unfold line at h
  split at h
  · obtain ⟨f, rfl⟩ := formatLine_eq_ok h
    trivial
  · split at h
    · obtain ⟨bytes, hbytes, rfl⟩ := strideLine_eq_ok h
      exact hbytes
    · split at h
      · obtain ⟨size, hread, rfl⟩ := map_eq_ok_iff.mp h
        exact Size.ne_zero_of_read hread
      · split at h
        · obtain ⟨count, hcount, rfl⟩ := levelsLine_eq_ok h
          exact hcount
        · obtain rfl := Except.ok.inj h
          trivial

/-- A line that is read leaves a level and a layer. -/
theorem isCounted_apply (hb : b.desc.IsCounted) (hl : l.IsNonzero) :
    (b.apply l).desc.IsCounted := by
  -- Only sizes and levels say how many levels and layers there are.
  cases l with
  | size extents => exact hb.withSize hl
  | levels count => exact ⟨hl, hb.layers⟩
  | format | stride | payload => exact ⟨hb.levels, hb.layers⟩

/-- No line that is taken makes a count zero. -/
theorem isCounted_takeLine (hb : b.desc.IsCounted) (h : b.takeLine s = (b', none)) :
    b'.desc.IsCounted := by
  unfold takeLine at h
  split at h
  · cases h
  · rename_i hline
    obtain ⟨rfl, -⟩ := Prod.mk.inj h
    exact isCounted_apply hb (isNonzero_of_line hline)
  · rename_i hline
    obtain ⟨rfl, -⟩ := Prod.mk.inj h
    exact isCounted_apply hb (isNonzero_of_line hline)

/-- So do all lines of a block, by induction on them. -/
theorem isCounted_takeLines {lines : List Text} (hb : b.desc.IsCounted)
    (h : b.takeLines lines = .ok b') : b'.desc.IsCounted := by
  induction lines generalizing b with
  | nil =>
    obtain rfl := Except.ok.inj h
    exact hb
  | cons s more ih =>
    unfold takeLines at h
    split at h
    · cases h
    · rename_i htaken
      exact ih (isCounted_takeLine hb htaken) h

end ResourceBlock

namespace ResourceDesc

variable {d : ResourceDesc}

/-- A description that passes is the final one, and has levels and a format as it should. -/
theorem checkedDesc_eq_ok {block : ResourceBlock} (h : Step.checkedDesc block = .ok d) :
    d = Step.finalDesc block ∧ d.levelCount.toNat ≤ d.maxLevelCount ∧
      (d.type = .uav → block.explicitFormat = true) := by
  unfold Step.checkedDesc at h
  dsimp only at h
  split at h
  · cases h
  · rename_i huav
    split at h
    · cases h
    · obtain rfl := Except.ok.inj h
      exact ⟨rfl, by omega, fun htype => by simpa [htype] using huav⟩

/-- An accepted description has no count of zero. -/
theorem IsAccepted.isCounted (h : d.IsAccepted) : d.IsCounted := by
  obtain ⟨type, slot, lines, block, hlines, hchecked⟩ := h
  obtain ⟨rfl, -⟩ := checkedDesc_eq_ok hchecked
  have hblock := ResourceBlock.isCounted_takeLines (isCounted_fresh type slot) hlines
  -- The end of a block only changes the width of a vertex buffer.
  unfold Step.finalDesc
  split
  · exact ⟨hblock.levels, hblock.layers⟩
  · exact hblock

/-- Extents of 32 bits are halved down to a single texel within 32 levels. -/
theorem maxLevelCount_le (d : ResourceDesc) : d.maxLevelCount ≤ 32 := by
  have hlog (w : UInt32) : w.toNat.log2 < 32 := by
    by_cases hzero : w.toNat = 0
    · rw [hzero]
      decide
    · exact (Nat.log2_lt hzero).mpr (UInt32.toNat_lt w)
  exact hlog _

/-- An accepted description has no more levels than a word has bits. -/
theorem IsAccepted.levelCount_le (h : d.IsAccepted) : d.levelCount.toNat ≤ 32 := by
  obtain ⟨type, slot, lines, block, -, hchecked⟩ := h
  exact Nat.le_trans (checkedDesc_eq_ok hchecked).2.1 d.maxLevelCount_le

end ResourceDesc

end ShaderConformance
