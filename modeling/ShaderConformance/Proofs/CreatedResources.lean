import ShaderConformance.Proofs.DescriptionParts
import ShaderConformance.Proofs.Frames

/-!
# Resources that a run creates

A run creates what the resource blocks of its file stand for, and the parts of its quads.  Each
part of such a description comes from one line that was accepted, or from a fresh block.  So no
extent and no count is zero, and there are no more levels than the extents have.  Only an element
may have no bytes: where the last line about formats gives the format of structured data, which
has no size, instead of a stride.

## Main definitions

- `Describes`: some lines stand for a description with initial contents
- `ResourceDesc.IsWellFormed`: what is asked of descriptions

## Main statements

- `Describes.isWellFormed`: what some lines describe is well-formed
- `described_of_runs`: what a run creates is described by some lines
-/

namespace ShaderConformance

open ResourceBlock (fresh said lastLine?)
open ResourceDesc (Part)

/-! ## What may be created -/

/-- Some lines stand for a description with initial contents.  The parts of a quad need none. -/
inductive Describes : List Text → ResourceDesc → List UInt8 → Prop
  | block {type : ResourceType} {slot : UInt32} {lines : List Text} {block : ResourceBlock}
      {desc : ResourceDesc} (htaken : (fresh type slot).takeLines lines = .ok block)
      (hchecked : Step.checkedDesc block = .ok desc) : Describes lines desc block.data
  | target : Describes [] Step.quadTarget []
  | buffer : Describes [] Step.quadBuffer Step.quadVertices

/-- What is asked of a description with initial contents: a vertex buffer is as wide as they are
    long, and the format gives the bytes of an element unless it is the one of structured data. -/
structure ResourceDesc.IsWellFormed (d : ResourceDesc) (data : List UInt8) : Prop where
  width : d.type ≠ .vertexBuffer → d.width ≠ 0
  payload : d.type = .vertexBuffer → d.width = UInt32.ofNat data.length
  height : d.height ≠ 0
  depth : d.depth ≠ 0
  layers : d.layerCount ≠ 0
  levels : d.levelCount ≠ 0
  samples : d.sampleCount ≠ 0
  levels_le : d.levelCount.toNat ≤ d.maxLevelCount
  maxLevels_le : d.maxLevelCount ≤ 32
  texel : d.format ≠ .unknown → d.texelSize = d.format.texelSize ∧ d.texelSize ≠ 0

/-- Only the unknown format has no texels. -/
theorem Format.texelSize_eq_zero_iff {f : Format} : f.texelSize = 0 ↔ f = .unknown := by
  cases f <;> decide

/-! ## Parts of descriptions -/

namespace ResourceDesc

/-- No extent and no count is zero, and the format gives the bytes of an element unless it is the
    one of structured data. -/
def Part.Sound (d : ResourceDesc) : Part → Prop
  | shape => d.width ≠ 0
  | height => d.height ≠ 0
  | depth => d.depth ≠ 0
  | layers => d.layerCount ≠ 0
  | samples => d.sampleCount ≠ 0
  | flags => True
  | levels => d.levelCount ≠ 0
  | texel => d.format = .unknown ∨ d.texelSize = d.format.texelSize

/-- A part is sound wherever it is the same. -/
theorem Part.Sound.congr {part : Part} {d d' : ResourceDesc} (h : part.Sound d')
    (hagree : part.Agree d d') : part.Sound d := by
  cases part with
  | flags => trivial
  | shape => rwa [Sound, hagree.2]
  | texel => rwa [Sound, hagree.1, hagree.2]
  | height | depth | layers | samples | levels =>
    rw [Agree] at hagree
    rwa [Sound, hagree]

/-- A fresh description is sound in every part. -/
theorem sound_fresh (type : ResourceType) (slot : UInt32) (part : Part) :
    part.Sound (ResourceDesc.fresh type slot) := by
  cases part with
  | texel => exact .inr rfl
  | flags => trivial
  | _ => simp [Part.Sound, ResourceDesc.fresh]

/-- A size without a dimension that is zero. -/
theorem sound_withSize (d : ResourceDesc) {extents : Size} {part : Part}
    (hextents : ∀ dimension ∈ extents.dimensions, dimension ≠ 0)
    (hsets : extents.sets part = true) : part.Sound (d.withSize extents) := by
  cases extents with
  | buffer width raw counter =>
    cases part with
    | shape =>
      have hwidth : width ≠ 0 := hextents width (by simp [Size.dimensions])
      cases counter <;> exact hwidth
    | flags => trivial
    | texel =>
      -- Only the size of a counter gives the bytes of an element.
      obtain rfl : counter = true := hsets
      exact .inr rfl
    | _ => cases hsets
  | _ =>
    cases part <;>
      simp_all [Size.sets, Size.dimensions, Part.Sound, ResourceDesc.withSize]

end ResourceDesc

namespace ResourceBlock

variable {lines : List Text} {b block : ResourceBlock} {type : ResourceType} {slot : UInt32}
  {l : Line} {part : Part}

/-- No line that is taken says zero. -/
theorem isNonzero_of_mem_said (h : l ∈ said lines) : l.IsNonzero := by
  obtain ⟨s, -, hread⟩ := List.mem_filterMap.mp h
  cases hline : (fresh .renderTarget 0).line s with
  | error fault => simp [Line.read?, hline, Except.toOption] at hread
  | ok l' =>
    obtain rfl : l' = l := by simpa [Line.read?, hline, Except.toOption] using hread
    exact isNonzero_of_line hline

/-- A line makes the parts sound that it sets. -/
theorem sound_apply (b : ResourceBlock) (hl : l.IsNonzero) (hsets : l.sets part = true) :
    part.Sound (b.apply l).desc := by
  cases l with
  | size extents => exact ResourceDesc.sound_withSize b.desc hl hsets
  | format f =>
    obtain rfl : part = .texel := by simpa [Line.sets] using hsets
    exact .inr rfl
  | stride bytes =>
    obtain rfl : part = .texel := by simpa [Line.sets] using hsets
    exact .inl rfl
  | levels count =>
    obtain rfl : part = .levels := by simpa [Line.sets] using hsets
    exact hl
  | payload => simp [Line.sets] at hsets

/-- Every part of what accepted lines make of a fresh block. -/
theorem sound_takeLines (htaken : (fresh type slot).takeLines lines = .ok block) (part : Part) :
    part.Sound block.desc := by
  refine Part.Sound.congr ?_ (agree_takeLines htaken part)
  cases hlast : lastLine? (·.sets part) lines with
  | none => exact ResourceDesc.sound_fresh type slot part
  | some last =>
    exact sound_apply _ (isNonzero_of_mem_said (mem_of_lastLine? hlast)) (kind_of_lastLine? hlast)

/-- A fresh description has elements of some bytes. -/
theorem texelSize_fresh_ne_zero (type : ResourceType) (slot : UInt32) :
    (fresh type slot).desc.texelSize ≠ 0 := by
  cases type <;> simp [fresh, ResourceDesc.fresh, Format.texelSize_eq_zero_iff]

/-- Of the lines that give the bytes of an element, only the format of structured data gives
    none. -/
theorem texelSize_apply_eq_zero_iff (b : ResourceBlock) (hl : l.IsNonzero)
    (hsets : l.sets .texel = true) : (b.apply l).desc.texelSize = 0 ↔ l = .format .unknown := by
  cases l with
  | format f => simpa [apply] using Format.texelSize_eq_zero_iff
  | stride bytes => exact iff_of_false hl (by simp)
  | size extents =>
    cases extents with
    | buffer width raw counter =>
      obtain rfl : counter = true := hsets
      simp [apply, ResourceDesc.withSize]
    | _ => cases hsets
  | levels | payload => cases hsets

/-- An element has no bytes only where the last line about them gives the format of structured
    data. -/
theorem texelSize_eq_zero_iff (htaken : (fresh type slot).takeLines lines = .ok block) :
    block.desc.texelSize = 0 ↔ lastLine? (·.sets .texel) lines = some (.format .unknown) := by
  rw [(agree_takeLines htaken .texel).2]
  cases hlast : lastLine? (·.sets .texel) lines with
  | none => simpa [after] using texelSize_fresh_ne_zero type slot
  | some last =>
    have hzero := texelSize_apply_eq_zero_iff (fresh type slot)
      (isNonzero_of_mem_said (mem_of_lastLine? hlast)) (kind_of_lastLine? hlast)
    simpa [after] using hzero

/-- A block has given a format or a stride, or is a counter, if a line gives the bytes of an
    element. -/
theorem explicitFormat_foldl (b : ResourceBlock) (ls : List Line) :
    (ls.foldl apply b).explicitFormat = (b.explicitFormat || ls.any (·.sets .texel)) := by
  induction ls generalizing b with
  | nil => simp
  | cons l ls ih =>
    have hline : (b.apply l).explicitFormat = (b.explicitFormat || l.sets .texel) := by
      cases l with
      | size extents =>
        cases extents with
        | buffer width raw counter => cases counter <;> simp [apply, Line.sets, Size.sets]
        | _ => simp [apply, Line.sets, Size.sets]
      | _ => simp [apply, Line.sets]
    rw [List.foldl_cons, ih, hline, List.any_cons, Bool.or_assoc]

end ResourceBlock

/-! ## Descriptions -/

namespace Describes

variable {lines : List Text} {desc : ResourceDesc} {data : List UInt8}

/-- What some lines describe is well-formed. -/
theorem isWellFormed (h : Describes lines desc data) : desc.IsWellFormed data := by
  have hmax := desc.maxLevelCount_le
  cases h with
  | target => constructor <;> simp [Step.quadTarget, ResourceDesc.fresh] <;> decide
  | buffer => constructor <;> simp [Step.quadBuffer, ResourceDesc.fresh] <;> decide
  | block htaken hchecked =>
    rename_i type slot block
    have hsound := ResourceBlock.sound_takeLines htaken
    obtain ⟨rfl, hlevels, -⟩ := ResourceDesc.checkedDesc_eq_ok hchecked
    -- The end of a block only changes the width, and only of a vertex buffer.
    have htexel (hformat : block.desc.format ≠ .unknown) :
        block.desc.texelSize = block.desc.format.texelSize ∧ block.desc.texelSize ≠ 0 := by
      have hsize := (hsound .texel).resolve_left hformat
      exact ⟨hsize, fun hzero => hformat (Format.texelSize_eq_zero_iff.mp (hsize ▸ hzero))⟩
    by_cases hbuffer : block.desc.type = .vertexBuffer
    · have hdesc : Step.finalDesc block =
          { block.desc with width := UInt32.ofNat block.data.length } := if_pos hbuffer
      rw [hdesc] at hlevels hmax ⊢
      exact ⟨fun hother => absurd hbuffer hother, fun _ => rfl, hsound .height, hsound .depth,
        hsound .layers, hsound .levels, hsound .samples, hlevels, hmax, htexel⟩
    · have hdesc : Step.finalDesc block = block.desc := if_neg hbuffer
      rw [hdesc] at hlevels hmax ⊢
      exact ⟨fun _ => hsound .shape, fun hother => absurd hother hbuffer, hsound .height,
        hsound .depth, hsound .layers, hsound .levels, hsound .samples, hlevels, hmax, htexel⟩

/-- The end of a block leaves the size of elements as it is. -/
theorem texelSize_finalDesc (block : ResourceBlock) :
    (Step.finalDesc block).texelSize = block.desc.texelSize := by
  unfold Step.finalDesc
  split <;> rfl

/-- Elements have no bytes only where the last line about them gives the format of structured
    data. -/
theorem texelSize_eq_zero_iff (h : Describes lines desc data) :
    desc.texelSize = 0 ↔ lastLine? (·.sets .texel) lines = some (.format .unknown) := by
  cases h with
  | target | buffer => exact iff_of_false (by decide) nofun
  | block htaken hchecked =>
    obtain ⟨rfl, -⟩ := ResourceDesc.checkedDesc_eq_ok hchecked
    rw [texelSize_finalDesc, ResourceBlock.texelSize_eq_zero_iff htaken]

/-- Some line gives the bytes of the elements of an unordered access view. -/
theorem exists_texel_of_uav (h : Describes lines desc data) (huav : desc.type = .uav) :
    ∃ l ∈ said lines, l.sets .texel = true := by
  cases h with
  | target | buffer => cases huav
  | block htaken hchecked =>
    have hexplicit := (ResourceDesc.checkedDesc_eq_ok hchecked).2.2 huav
    rw [ResourceBlock.takeLines_eq_foldl htaken, ResourceBlock.explicitFormat_foldl] at hexplicit
    simpa [fresh] using hexplicit

end Describes

/-! ## Runs -/

/-- What is created at an event, with its initial contents. -/
def Event.create? {H : Type} : Event H → Option (ResourceDesc × List UInt8)
  | ⟨⟨_, .request (.create desc data)⟩, _⟩ => some (desc, data)
  | _ => none

section Runs

variable {H : Type} {context : RunContext}

/-- All that was created is described by some lines. -/
def AllDescribed (history : List (Event H)) (_ : Session H) : Prop :=
  ∀ event ∈ history, ∀ desc data, event.create? = some (desc, data) →
    ∃ lines, Describes lines desc data

/-- What a block describes was said by its lines. -/
theorem admits_described : Admits fun desc data => ∃ lines, Describes lines desc data where
  block _ _ lines _ _ htaken hchecked := ⟨lines, .block htaken hchecked⟩
  target := ⟨[], .target⟩
  buffer := ⟨[], .buffer⟩

namespace AllDescribed

/-- A property of creations looks at no other request. -/
theorem isScoped : IsScopedOn (H := H) (fun desc data => ∃ lines, Describes lines desc data)
    AllDescribed where
  event history session deed answer hdeed h event hevent desc data hcreate := by
    obtain hevent | hevent := List.mem_append.mp hevent
    · exact h event hevent desc data hcreate
    · obtain rfl := List.mem_singleton.mp hevent
      cases deed with
      | note => cases hcreate
      | request q =>
        cases q with
        | create desc' data' =>
          obtain ⟨rfl, rfl⟩ : desc' = desc ∧ data' = data := by
            simpa [Event.create?] using hcreate
          exact hdeed
        | _ => cases hcreate
  congr _ _ _ _ h := h

/-- Requirements create nothing. -/
theorem isInvariant : IsInvariantOn (H := H) (fun desc data => ∃ lines, Describes lines desc data)
    context AllDescribed := by
  refine isScoped.isInvariant (fun block => ?_) fun _ => .modifySession fun _ _ h => h
  refine .bind (.modifySession fun _ _ h => h) fun _ => ?_
  cases (block.evaluate context.caps).skipReason? with
  | some reason =>
    exact .bind (isScoped.isSteady.log_upholds _ _) fun _ => .modifySession fun _ _ h => h
  | none => exact .modifySession fun _ _ h => h

end AllDescribed

/-- Every creation of a run is described by lines. -/
theorem describes_of_runs {text : Text} {events : List (Event H)} {result : RunResult}
    (hrun : (runFile H context text).Runs events result) :
    ∀ event ∈ events, ∀ desc data, event.create? = some (desc, data) →
      ∃ lines, Describes lines desc data := by
  obtain ⟨_, hall⟩ := AllDescribed.isScoped.of_runs AllDescribed.isInvariant admits_described
    (fun event hevent => absurd hevent List.not_mem_nil) hrun
  exact hall

/-- Whatever a run creates is described by lines that were accepted, or is a part of a quad, and
    its description is well-formed.  Its elements have no bytes only where the last line about
    them gives the format of structured data, and if it is an unordered access view, some line
    gives their bytes. -/
theorem described_of_runs {text : Text} {events : List (Event H)} {result : RunResult}
    (hrun : (runFile H context text).Runs events result) :
    ∀ event ∈ events, ∀ desc data, event.create? = some (desc, data) →
      desc.IsWellFormed data ∧ (∃ lines, Describes lines desc data) ∧
      ∀ lines, Describes lines desc data →
        (desc.texelSize = 0 ↔ lastLine? (·.sets .texel) lines = some (.format .unknown)) ∧
        (desc.type = .uav → ∃ l ∈ said lines, l.sets .texel = true) := by
  intro event hevent desc data hcreate
  obtain ⟨lines, hdescribes⟩ := describes_of_runs hrun event hevent desc data hcreate
  exact ⟨hdescribes.isWellFormed, ⟨lines, hdescribes⟩, fun lines hdescribes =>
    ⟨hdescribes.texelSize_eq_zero_iff, hdescribes.exists_texel_of_uav⟩⟩

/-- A file that describes a buffer of structured data without a stride. -/
def strideless : Text := "[srv 0]\nformat unknown\nsize (buffer, 4)\n".toList

/-- What it describes. -/
def stridelessBuffer : ResourceDesc :=
  { ResourceDesc.fresh .texture 0 with dimension := .buffer, format := .unknown, texelSize := 0
                                       width := 4 }

/-- A run of the file creates the buffer, although its elements have no bytes. -/
theorem described_strideless :
    (journalEvents .willing none ⟨"strideless", .run, .plain⟩ strideless).filterMap Event.create? =
      [(stridelessBuffer, [])] ∧
    stridelessBuffer.IsWellFormed [] ∧ stridelessBuffer.texelSize = 0 ∧
    ∃ lines, Describes lines stridelessBuffer [] ∧
      lastLine? (·.sets .texel) lines = some (.format .unknown) := by
  have hcreates : (journalEvents .willing none ⟨"strideless", .run, .plain⟩ strideless).filterMap
      Event.create? = [(stridelessBuffer, [])] := by decide +kernel
  obtain ⟨event, hevent, hcreate⟩ := List.mem_filterMap.mp
    (hcreates ▸ List.mem_singleton_self (stridelessBuffer, []))
  obtain ⟨hformed, ⟨lines, hdescribes⟩, hlines⟩ :=
    described_of_runs (runs_journalEvents _ _ _ _) event hevent _ _ hcreate
  exact ⟨hcreates, hformed, rfl, lines, hdescribes, (hlines lines hdescribes).1.mp rfl⟩

end Runs

end ShaderConformance
