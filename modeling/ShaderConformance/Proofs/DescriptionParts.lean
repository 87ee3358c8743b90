import Mathlib.Data.List.Find
import Mathlib.Data.List.Induction
import ShaderConformance.Proofs.AcceptedBlocks

/-!
# Which lines a description comes from

Each line of a resource block sets some parts of the description and leaves the others.  So every
part of a finished description is what the last line that sets it gives a fresh block, and two
blocks stand for the same description exactly if these lines agree on every part.

A size does not set every part that a size can set.  What it leaves is taken from a size before it,
and a format after the size of a counter changes the texel of the counter.

## Main definitions

- `ResourceDesc.Part`: the parts of a description that lines set together
- `ResourceBlock.Line.sets`: a line sets a part
- `ResourceBlock.lastLine`: the last line of a kind
- `ResourceBlock.IsSettled`: nothing is left over from a size

## Main statements

- `ResourceBlock.agree_takeLines`: every part is what the last line that sets it gives
- `ResourceBlock.describes_of_takeLines`: when two blocks stand for the same description
-/

namespace ShaderConformance

/-! ## Parts of descriptions -/

namespace ResourceDesc

/-- The parts of a description that a line sets together. -/
inductive Part where
  /-- The dimension and the width. -/
  | shape
  | height
  | depth
  | layers
  | samples
  /-- Whether a buffer is raw or a counter. -/
  | flags
  | levels
  /-- The format and the bytes of an element. -/
  | texel
deriving DecidableEq

/-- Two descriptions agree on a part. -/
def Part.Agree (d d' : ResourceDesc) : Part → Prop
  | shape => d.dimension = d'.dimension ∧ d.width = d'.width
  | height => d.height = d'.height
  | depth => d.depth = d'.depth
  | layers => d.layerCount = d'.layerCount
  | samples => d.sampleCount = d'.sampleCount
  | flags => d.isRaw = d'.isRaw ∧ d.isCounter = d'.isCounter
  | levels => d.levelCount = d'.levelCount
  | texel => d.format = d'.format ∧ d.texelSize = d'.texelSize

namespace Part

variable {part : Part} {d d' d'' : ResourceDesc}

theorem Agree.refl (d : ResourceDesc) (part : Part) : part.Agree d d := by
  cases part <;> simp [Agree]

theorem Agree.trans (h : part.Agree d d') (h' : part.Agree d' d'') : part.Agree d d'' := by
  cases part <;> simp_all [Agree]

theorem Agree.symm (h : part.Agree d d') : part.Agree d' d := by
  cases part <;> simp_all [Agree]

end Part

/-- A description is its parts, with the name of the resource. -/
theorem eq_of_agree {d d' : ResourceDesc} (href : d.ref = d'.ref)
    (h : ∀ part, Part.Agree d d' part) : d = d' := by
  obtain ⟨htype, hslot⟩ := ResourceRef.mk.inj href
  obtain ⟨hdimension, hwidth⟩ := h .shape
  obtain ⟨hraw, hcounter⟩ := h .flags
  obtain ⟨hformat, htexel⟩ := h .texel
  have hheight := h .height
  have hdepth := h .depth
  have hlayers := h .layers
  have hsamples := h .samples
  have hlevels := h .levels
  cases d
  cases d'
  simp only [Part.Agree] at *
  simp only [mk.injEq]
  exact ⟨hslot, htype, hdimension, hformat, htexel, hwidth, hheight, hdepth, hlayers, hlevels,
    hsamples, hraw, hcounter⟩

end ResourceDesc

open ResourceDesc (Part)

/-! ## Lines -/

/-- The parts that a size sets. -/
def Size.sets : Size → Part → Bool
  | _, .shape => true
  | .buffer _ _ _, .flags => true
  | .buffer _ _ counter, .texel => counter
  | .texture2d _ _, .height => true
  | .texture2dMs _ _ _, .height | .texture2dMs _ _ _, .samples => true
  | .texture2dArray _ _ _, .height | .texture2dArray _ _ _, .layers => true
  | .texture3d _ _ _, .height | .texture3d _ _ _, .depth => true
  | .cube _, .height | .cube _, .layers => true
  | _, _ => false

namespace ResourceBlock

namespace Line

/-- The parts that a line sets. -/
def sets : Line → Part → Bool
  | .format _, part | .stride _, part => part = .texel
  | .size extents, part => extents.sets part
  | .levels _, part => part = .levels
  | .payload _ _, _ => false

/-- Whether a line is a size. -/
def isSize : Line → Bool
  | .size _ => true
  | _ => false

/-- Whether a line is a format or a stride. -/
def isTexel : Line → Bool
  | .format _ | .stride _ => true
  | _ => false

/-- Whether a line is a number of levels. -/
def isLevels : Line → Bool
  | .levels _ => true
  | _ => false

/-- What a line says in a block in which nothing contradicts it. -/
def read? (s : Text) : Option Line := ((fresh .renderTarget 0).line s).toOption

end Line

variable {b b' : ResourceBlock} {l : Line} {s rest : Text} {lines : List Text} {part : Part}

/-- A size sets its parts whatever the description is. -/
theorem agree_withSize (size : Size) (d d' : ResourceDesc) (h : size.sets part = true) :
    part.Agree (d.withSize size) (d'.withSize size) := by
  cases size with
  | buffer width raw counter =>
    cases counter <;> cases part <;> simp_all [Size.sets, Part.Agree, ResourceDesc.withSize]
  | _ => cases part <;> simp_all [Size.sets, Part.Agree, ResourceDesc.withSize]

/-- A size leaves the other parts. -/
theorem agree_withSize_of_not_sets (size : Size) (d : ResourceDesc) (h : size.sets part = false) :
    part.Agree (d.withSize size) d := by
  cases size with
  | buffer width raw counter =>
    cases counter <;> cases part <;> simp_all [Size.sets, Part.Agree, ResourceDesc.withSize]
  | _ => cases part <;> simp_all [Size.sets, Part.Agree, ResourceDesc.withSize]

/-- A line sets its parts whatever the block is. -/
theorem agree_apply (b b' : ResourceBlock) (h : l.sets part = true) :
    part.Agree (b.apply l).desc (b'.apply l).desc := by
  cases l with
  | format f | stride bytes =>
    obtain rfl : part = .texel := by simpa [Line.sets] using h
    exact ⟨rfl, rfl⟩
  | levels count =>
    obtain rfl : part = .levels := by simpa [Line.sets] using h
    rfl
  | size size => exact agree_withSize size b.desc b'.desc h
  | payload words fault => simp [Line.sets] at h

/-- A line leaves the other parts. -/
theorem agree_apply_of_not_sets (b : ResourceBlock) (h : l.sets part = false) :
    part.Agree (b.apply l).desc b.desc := by
  cases l with
  | format f | stride bytes | levels count =>
    cases part <;> simp_all [Line.sets, apply, Part.Agree]
  | size size => exact agree_withSize_of_not_sets size b.desc h
  | payload words fault => exact .refl b.desc part

/-- No line changes what a block is named. -/
theorem ref_apply (b : ResourceBlock) (l : Line) : (b.apply l).desc.ref = b.desc.ref := by
  cases l with
  | size size =>
    cases size with
    | buffer width raw counter => cases counter <;> rfl
    | _ => rfl
  | _ => rfl

/-! ## Reading -/

/-- What is accepted in a block says the same anywhere. -/
theorem read?_of_line (h : b.line s = .ok l) : Line.read? s = some l := by
  suffices halone : (fresh .renderTarget 0).line s = .ok l by rw [Line.read?, halone]; rfl
  unfold line at h ⊢
  split at h
  · unfold formatLine at h ⊢
    dsimp only at h ⊢
    split at h
    · cases h
    · exact h
  · split at h
    · unfold strideLine at h ⊢
      dsimp only at h ⊢
      split at h
      · cases h
      · exact h
    · exact h

/-- A line that is taken is read first and then applied. -/
theorem takeLine_eq_apply (h : b.takeLine s = (b', none)) :
    ∃ l, Line.read? s = some l ∧ b' = b.apply l := by
  unfold takeLine at h
  split at h
  · cases h
  · rename_i hline
    exact ⟨_, read?_of_line hline, (Prod.mk.inj h).1.symm⟩
  · rename_i hline
    exact ⟨_, read?_of_line hline, (Prod.mk.inj h).1.symm⟩

/-- What lines say. -/
def said (lines : List Text) : List Line := lines.filterMap Line.read?

/-- A block whose lines are accepted takes what they say, one after another. -/
theorem takeLines_eq_foldl (h : b.takeLines lines = .ok b') : b' = (said lines).foldl apply b := by
  induction lines generalizing b with
  | nil => exact (Except.ok.inj h).symm
  | cons s more ih =>
    unfold takeLines at h
    split at h
    · cases h
    · rename_i htaken
      obtain ⟨l, hread, rfl⟩ := takeLine_eq_apply htaken
      rw [said, List.filterMap_cons_some hread, List.foldl_cons]
      exact ih h

/-! ## The last line of a kind -/

/-- The last line of a kind. -/
def lastLine? (kind : Line → Bool) (lines : List Text) : Option Line :=
  (said lines).reverse.find? kind

section LastLine

variable {kind : Line → Bool} {last : Line}

/-- The last line of a kind is of that kind. -/
theorem kind_of_lastLine? (h : lastLine? kind lines = some last) : kind last = true :=
  List.find?_some h

/-- The last line of a kind was said. -/
theorem mem_of_lastLine? (h : lastLine? kind lines = some last) : last ∈ said lines :=
  List.mem_reverse.mp (List.mem_of_find?_eq_some h)

end LastLine

/-- A block after one line, if there is one. -/
def after (b : ResourceBlock) (l : Option Line) : ResourceBlock := l.elim b b.apply

theorem ref_foldl (b : ResourceBlock) (ls : List Line) :
    (ls.foldl apply b).desc.ref = b.desc.ref := by
  induction ls generalizing b with
  | nil => rfl
  | cons l ls ih => exact (ih (b.apply l)).trans (ref_apply b l)

/-- By induction on the lines from the last one back: it sets the part, or it leaves what the
    lines before it made of the part. -/
theorem agree_foldl (b : ResourceBlock) (ls : List Line) (part : Part) :
    part.Agree (ls.foldl apply b).desc (b.after (ls.reverse.find? (·.sets part))).desc := by
  induction ls using List.reverseRecOn with
  | nil => exact .refl b.desc part
  | append_singleton ls l ih =>
    rw [List.foldl_append, List.reverse_append]
    change part.Agree ((ls.foldl apply b).apply l).desc (b.after ((l :: ls.reverse).find? _)).desc
    cases hsets : l.sets part with
    | true =>
      simp only [List.find?_cons, hsets]
      exact agree_apply _ b hsets
    | false =>
      simp only [List.find?_cons, hsets]
      exact (agree_apply_of_not_sets _ hsets).trans ih

/-- Every part of a description is what the last line that sets it gives. -/
theorem agree_takeLines (h : b.takeLines lines = .ok b') (part : Part) :
    part.Agree b'.desc (b.after (lastLine? (·.sets part) lines)).desc := by
  rw [takeLines_eq_foldl h]
  exact agree_foldl b (said lines) part

/-! ## Settled blocks -/

/-- Nothing is left over from a size that is replaced, and no other texel is given to a counter
    after its size. -/
structure IsSettled (lines : List Text) : Prop where
  sizes : ∀ l ∈ said lines, l.isSize = true → ∀ part, l.sets part = true →
    ∃ last, lastLine? (·.isSize) lines = some last ∧ last.sets part = true
  counter : ∀ last, lastLine? (·.isSize) lines = some last → last.sets .texel = true →
    lastLine? (·.sets .texel) lines = some last

/-- Nothing is left over if all sizes set the same parts and none is that of a counter: from sizes
    of one kind, or from the only size. -/
theorem IsSettled.of_alike (halike : ∀ l ∈ said lines, ∀ l' ∈ said lines, l.isSize = true →
      l'.isSize = true → ∀ part, l.sets part = l'.sets part)
    (hcounter : ∀ l ∈ said lines, l.isSize = true → l.sets .texel = false) : IsSettled lines where
  sizes l hmem hsize part hsets := by
    obtain ⟨last, hlast⟩ : ∃ last, lastLine? (·.isSize) lines = some last :=
      Option.isSome_iff_exists.mp (List.find?_isSome.mpr ⟨l, List.mem_reverse.mpr hmem, hsize⟩)
    refine ⟨last, hlast, ?_⟩
    rw [halike last (mem_of_lastLine? hlast) l hmem (kind_of_lastLine? hlast) hsize part, hsets]
  counter last hlast hsets := by
    rw [hcounter last (mem_of_lastLine? hlast) (kind_of_lastLine? hlast)] at hsets
    cases hsets

/-- The line that a part of a settled block comes from: the last size, if it sets the part, and
    otherwise the last line of the only other kind that does. -/
def source? (lines : List Text) (part : Part) : Option Line :=
  ((lastLine? (·.isSize) lines).filter (·.sets part)).or <|
    match part with
    | .texel => lastLine? (·.isTexel) lines
    | .levels => lastLine? (·.isLevels) lines
    | _ => none

/-- Only lines of sizes set what is neither texels nor levels. -/
theorem isSize_of_sets {part : Part} (h : l.sets part = true) (htexel : part ≠ .texel)
    (hlevels : part ≠ .levels) : l.isSize = true := by
  cases l with
  | size => rfl
  | format | stride => exact absurd (by simpa [Line.sets] using h) htexel
  | levels => exact absurd (by simpa [Line.sets] using h) hlevels
  | payload => simp [Line.sets] at h

/-- A line of a size leaves the levels as they are. -/
theorem not_sets_levels_of_isSize (h : l.isSize = true) : l.sets .levels = false := by
  cases l with
  | size extents => cases extents <;> rfl
  | _ => simp [Line.isSize] at h

/-- But for sizes, only lines of texels set the texels. -/
theorem isTexel_of_sets (h : l.sets .texel = true) (hsize : l.isSize = false) :
    l.isTexel = true := by
  cases l with
  | size => simp [Line.isSize] at hsize
  | format | stride => rfl
  | levels => simp [Line.sets] at h
  | payload => simp [Line.sets] at h

/-- The lines of levels are those that set the levels. -/
theorem isLevels_eq_sets (l : Line) : l.isLevels = l.sets .levels := by
  cases l with
  | size extents => cases extents <;> rfl
  | _ => rfl

/-- The first element of a kind is the first one of a wider kind, if that is of the kind. -/
theorem find?_of_wider {T : Type} {narrow wide : T → Bool} {xs : List T} {x : T}
    (h : xs.find? wide = some x) (hx : narrow x = true)
    (hwider : ∀ y ∈ xs, narrow y = true → wide y = true) : xs.find? narrow = some x := by
  obtain ⟨-, before, rest, rfl, hbefore⟩ := List.find?_eq_some_iff_append.mp h
  refine List.find?_eq_some_iff_append.mpr ⟨hx, before, rest, rfl, fun y hy => ?_⟩
  have hnot : wide y = false := by simpa using hbefore y hy
  have hmem : y ∈ before ++ x :: rest := List.mem_append_left _ hy
  cases hnarrow : narrow y with
  | false => rfl
  | true => rw [hwider y hmem hnarrow] at hnot; cases hnot

/-- Where nothing is left over, each part comes from the line that is said to set it. -/
theorem IsSettled.lastLine?_sets (h : IsSettled lines) (part : Part) :
    lastLine? (·.sets part) lines = source? lines part := by
  unfold source?
  cases hsource : (lastLine? (·.isSize) lines).filter (·.sets part) with
  | some last =>
    obtain ⟨hlast, hsets⟩ := Option.filter_eq_some_iff.mp hsource
    by_cases htexel : part = .texel
    · subst htexel
      exact h.counter last hlast hsets
    · -- Only sizes set the other parts, so the last size is the last line that does.
      refine find?_of_wider hlast hsets fun l _ hl => isSize_of_sets hl htexel ?_
      rintro rfl
      rw [not_sets_levels_of_isSize (kind_of_lastLine? hlast)] at hsets
      cases hsets
  | none =>
    -- A size that set the part would be followed by one that does.
    have hsizes : ∀ l ∈ (said lines).reverse, l.sets part = true → l.isSize = false := by
      intro l hmem hsets
      cases hsize : l.isSize with
      | false => rfl
      | true =>
        obtain ⟨last, hlast, hsets⟩ := h.sizes l (List.mem_reverse.mp hmem) hsize part hsets
        simp [hlast, hsets, Option.filter] at hsource
    cases part with
    | texel =>
      refine List.find?_congr fun l hmem => ?_
      cases hsets : l.sets .texel with
      | true => exact (isTexel_of_sets hsets (hsizes l hmem hsets)).symm
      | false => cases l <;> simp_all [Line.sets, Line.isTexel]
    | levels => exact List.find?_congr fun l _ => (isLevels_eq_sets l).symm
    | _ =>
      refine List.find?_eq_none.mpr fun l hmem hsets => ?_
      have hsize := isSize_of_sets hsets (by decide) (by decide)
      rw [hsizes l hmem hsets] at hsize
      cases hsize

/-- The parts that only sizes set are those that the last size gives. -/
theorem IsSettled.agree_size (h : IsSettled lines) (htaken : b.takeLines lines = .ok b')
    (htexel : part ≠ .texel) (hlevels : part ≠ .levels) :
    part.Agree b'.desc (b.after (lastLine? (·.isSize) lines)).desc := by
  have hagree := agree_takeLines htaken part
  rw [h.lastLine?_sets part] at hagree
  have hsource : source? lines part = (lastLine? (·.isSize) lines).filter (·.sets part) := by
    unfold source?
    cases part <;> first | contradiction | exact Option.or_none
  rw [hsource] at hagree
  cases hlast : lastLine? (·.isSize) lines with
  | none =>
    rw [hlast] at hagree
    exact hagree
  | some last =>
    rw [hlast] at hagree
    cases hsets : last.sets part with
    | true =>
      simp only [Option.filter_some, hsets, if_true] at hagree
      exact hagree
    | false =>
      -- A part that the last size does not set is as in the block before all lines.
      simp only [Option.filter_some, hsets, Bool.false_eq_true, if_false] at hagree
      exact hagree.trans (agree_apply_of_not_sets b hsets).symm

/-- The last lines of the three kinds say the same. -/
def EndAlike (lines lines' : List Text) : Prop :=
  lastLine? (·.isSize) lines = lastLine? (·.isSize) lines' ∧
  lastLine? (·.isTexel) lines = lastLine? (·.isTexel) lines' ∧
  lastLine? (·.isLevels) lines = lastLine? (·.isLevels) lines'

/-- A size makes a counter only where it also gives the texel of a counter. -/
theorem texel_of_counter {type : ResourceType} {slot : UInt32} {last : Line}
    (hsize : last.isSize = true)
    (hcounter : ((fresh type slot).apply last).desc.isCounter = true) :
    last.sets .texel = true ∧ ((fresh type slot).apply last).desc.format = .r32Uint ∧
      ((fresh type slot).apply last).desc.texelSize = 4 := by
  cases last with
  | size extents =>
    cases extents with
    | buffer width raw counter =>
      cases counter with
      | true => exact ⟨rfl, rfl, rfl⟩
      | false => cases hcounter
    | _ => cases hcounter
  | _ => cases hsize

/-- The texel of a counter is the one that its size gives. -/
theorem IsSettled.counter_texel {type : ResourceType} {slot : UInt32} {block : ResourceBlock}
    (h : IsSettled lines) (htaken : (fresh type slot).takeLines lines = .ok block)
    (hcounter : block.desc.isCounter = true) :
    block.desc.format = .r32Uint ∧ block.desc.texelSize = 4 := by
  obtain ⟨-, hflag⟩ := h.agree_size htaken (show Part.flags ≠ .texel by decide) (by decide)
  rw [hcounter] at hflag
  cases hlast : lastLine? (·.isSize) lines with
  | none =>
    rw [hlast] at hflag
    cases hflag
  | some last =>
    rw [hlast] at hflag
    obtain ⟨hsets, hformat, htexel⟩ := texel_of_counter (kind_of_lastLine? hlast) hflag.symm
    have hagree := agree_takeLines htaken .texel
    rw [h.counter last hlast hsets] at hagree
    exact ⟨hagree.1.trans hformat, hagree.2.trans htexel⟩

/-- Two blocks stand for the same description exactly if, for every part, the last lines that set
    it agree.  Where nothing is left over from sizes, it is enough that the last sizes, the last
    formats or strides and the last numbers of levels say the same; the parts that only sizes set
    are then those that the last size gives a fresh block, and a counter has the texel of one. -/
theorem describes_of_takeLines {type : ResourceType} {slot : UInt32} {lines lines' : List Text}
    {block block' : ResourceBlock} (htaken : (fresh type slot).takeLines lines = .ok block)
    (htaken' : (fresh type slot).takeLines lines' = .ok block') :
    (block.desc = block'.desc ↔ ∀ part : Part, part.Agree
      ((fresh type slot).after (lastLine? (·.sets part) lines)).desc
      ((fresh type slot).after (lastLine? (·.sets part) lines')).desc) ∧
    (IsSettled lines → IsSettled lines' → EndAlike lines lines' → block.desc = block'.desc) ∧
    (IsSettled lines →
      (∀ part : Part, part ≠ .texel → part ≠ .levels →
        part.Agree block.desc ((fresh type slot).after (lastLine? (·.isSize) lines)).desc) ∧
      (block.desc.isCounter = true →
        block.desc.format = .r32Uint ∧ block.desc.texelSize = 4)) := by
  have hagree := agree_takeLines htaken
  have hagree' := agree_takeLines htaken'
  -- No line changes which resource the block is for.
  have href : block.desc.ref = block'.desc.ref := by
    rw [takeLines_eq_foldl htaken, takeLines_eq_foldl htaken', ref_foldl, ref_foldl]
  -- Each part is decided by the last line that sets it.
  have hiff : block.desc = block'.desc ↔ ∀ part : Part, part.Agree
      ((fresh type slot).after (lastLine? (·.sets part) lines)).desc
      ((fresh type slot).after (lastLine? (·.sets part) lines')).desc := by
    constructor
    · intro heq part
      exact ((hagree part).symm.trans (heq ▸ .refl block.desc part)).trans (hagree' part)
    · intro hsame
      exact ResourceDesc.eq_of_agree href fun part =>
        ((hagree part).trans (hsame part)).trans (hagree' part).symm
  refine ⟨hiff, fun hsettled hsettled' halike => hiff.mpr fun part => ?_, fun hsettled =>
    ⟨fun part htexel hlevels => hsettled.agree_size htaken htexel hlevels,
      hsettled.counter_texel htaken⟩⟩
  -- Where the lines are settled, the kinds of the last lines tell the last line of each part.
  have hsource : source? lines part = source? lines' part := by
    simp only [source?, halike.1, halike.2.1, halike.2.2]
  rw [hsettled.lastLine?_sets, hsettled'.lastLine?_sets, hsource]
  exact .refl _ part

/-! Blocks with the same last lines that stand for different descriptions. -/

/-- The size of a plane after that of a volume. -/
def planeAfterVolume : List Text := ["size (3d, 2, 2, 2)".toList, "size (2d, 4, 8)".toList]

/-- The size of the plane alone. -/
def plane : List Text := ["size (2d, 4, 8)".toList]

/-- A format after the size of a counter. -/
def formatAfterCounter : List Text :=
  ["size (counter_buffer, 1)".toList, "format r32g32b32a32-float".toList]

/-- The same lines in the other order. -/
def counterAfterFormat : List Text :=
  ["format r32g32b32a32-float".toList, "size (counter_buffer, 1)".toList]

/-- The plane keeps the depth of the volume, and the counter gets the texel of the format. -/
theorem describes_leftovers :
    (∃ block block', (fresh .texture 0).takeLines planeAfterVolume = .ok block ∧
      (fresh .texture 0).takeLines plane = .ok block' ∧ EndAlike planeAfterVolume plane ∧
      IsSettled plane ∧ ¬ IsSettled planeAfterVolume ∧
      block.desc ≠ block'.desc ∧ block.desc.depth = 2 ∧ block'.desc.depth = 1) ∧
    (∃ block block', (fresh .uav 0).takeLines formatAfterCounter = .ok block ∧
      (fresh .uav 0).takeLines counterAfterFormat = .ok block' ∧
      EndAlike formatAfterCounter counterAfterFormat ∧ block.desc ≠ block'.desc ∧
      block.desc.isCounter = true ∧ block.desc.texelSize = 16 ∧ block'.desc.texelSize = 4) := by
  -- What the lines say.
  have hvolume : said planeAfterVolume = [.size (.texture3d 2 2 2), .size (.texture2d 4 8)] := rfl
  have hplane : said plane = [.size (.texture2d 4 8)] := rfl
  have hcounter : said formatAfterCounter =
      [.size (.buffer 1 false true), .format .r32G32B32A32Float] := rfl
  have hformat : said counterAfterFormat =
      [.format .r32G32B32A32Float, .size (.buffer 1 false true)] := rfl
  constructor
  · have htaken : (fresh .texture 0).takeLines planeAfterVolume =
        .ok (((fresh .texture 0).apply (.size (.texture3d 2 2 2))).apply
          (.size (.texture2d 4 8))) := rfl
    have htaken' : (fresh .texture 0).takeLines plane =
        .ok ((fresh .texture 0).apply (.size (.texture2d 4 8))) := rfl
    have halike : EndAlike planeAfterVolume plane := by
      simp [EndAlike, lastLine?, hvolume, hplane, Line.isSize, Line.isTexel, Line.isLevels]
    have hsettled : IsSettled plane := .of_alike (by simp [hplane])
      (by simp [hplane, Line.isSize, Line.sets, Size.sets])
    obtain ⟨hiff, hsame, -⟩ := describes_of_takeLines htaken htaken'
    -- The depth of the volume is left over.
    have hdiffers : (((fresh .texture 0).apply (.size (.texture3d 2 2 2))).apply
          (.size (.texture2d 4 8))).desc ≠
        ((fresh .texture 0).apply (.size (.texture2d 4 8))).desc := by
      intro heq
      have hagree := hiff.mp heq .depth
      rw [lastLine?, hvolume, lastLine?, hplane] at hagree
      have hdepth : (2 : UInt32) = 1 := hagree
      cases hdepth
    exact ⟨_, _, htaken, htaken', halike, hsettled,
      fun hleft => hdiffers (hsame hleft hsettled halike), hdiffers, rfl, rfl⟩
  · have htaken : (fresh .uav 0).takeLines formatAfterCounter =
        .ok (((fresh .uav 0).apply (.size (.buffer 1 false true))).apply
          (.format .r32G32B32A32Float)) := rfl
    have htaken' : (fresh .uav 0).takeLines counterAfterFormat =
        .ok (((fresh .uav 0).apply (.format .r32G32B32A32Float)).apply
          (.size (.buffer 1 false true))) := rfl
    -- The line behind the counter sets the size of its elements.
    refine ⟨_, _, htaken, htaken', ?_, fun heq => ?_, rfl, rfl, rfl⟩
    · simp [EndAlike, lastLine?, hcounter, hformat, Line.isSize, Line.isTexel, Line.isLevels]
    · have hagree := (describes_of_takeLines htaken htaken').1.mp heq .texel
      rw [lastLine?, hcounter, lastLine?, hformat] at hagree
      have htexel : (16 : UInt32) = 4 := hagree.2
      cases htexel

end ResourceBlock

end ShaderConformance
