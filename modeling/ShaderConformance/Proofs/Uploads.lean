import Mathlib.Algebra.Ring.Nat
import ShaderConformance.Gpu.Simulated.Device
import ShaderConformance.Proofs.Results
import ShaderConformance.Proofs.Subresources

/-!
# The payload of a texture

A payload is written to the subresources of a texture in the order of their numbers.  Each of them
takes as many bytes as its level has, and the last one that the payload reaches is filled up with
zeros.

The loops over layers and over levels only count.  What is written is decided by the list of all
subresources in order, which is filled from the front.

## Main definitions

- `ResourceDesc.levelBytes`, `ResourceDesc.subresourceOffset`: sizes and offsets as numbers of any
  size
- `Gpu.Part`, `Gpu.fill`: a list of subresources that is filled from the front
- `Gpu.Partitions`: writes that divide a payload among subresources

## Main statements

- `Gpu.getElem?_fill`: what is written to a subresource
- `Gpu.flatMap_contents_fill`: what is written to all of them
- `Gpu.uploads_eq_fill`: the uploads of a texture fill the list of its subresources
- `Gpu.partitions_of_createTextureOf`: the writes to a texture divide its payload
-/

namespace ShaderConformance

/-! ## Sizes and offsets -/

namespace ResourceDesc

variable (d : ResourceDesc)

/-- The bytes of a level, as a number of any size. -/
def levelBytes (level : UInt32) : Nat :=
  (d.levelWidth level).toNat * d.texelSize.toNat * (d.levelHeight level).toNat *
    (Gpu.levelSlices d level).toNat

/-- Where the subresource with a number begins, if one follows the other. -/
def subresourceOffset (n : Nat) : Nat :=
  ((List.range n).map fun i => d.levelBytes (.ofNat (i % d.levelCount.toNat))).sum

variable {d} {level layer level' layer' : UInt32}

/-- Subresources are told apart by their numbers. -/
theorem Has.eq_of_number_eq (h : d.Has level layer) (h' : d.Has level' layer')
    (hnumber : d.subresourceNumber level layer = d.subresourceNumber level' layer') :
    level = level' ∧ layer = layer' := by
  have hpos : 0 < d.levelCount.toNat := Nat.zero_lt_of_lt h.level_lt
  have hparts {level layer : UInt32} (h : d.Has level layer) :
      d.subresourceNumber level layer % d.levelCount.toNat = level.toNat ∧
        d.subresourceNumber level layer / d.levelCount.toNat = layer.toNat := by
    rw [subresourceNumber, Nat.mul_add_mod_self_right, Nat.mod_eq_of_lt h.level_lt, Nat.mul_comm,
      Nat.mul_add_div hpos, Nat.div_eq_of_lt h.level_lt, Nat.add_zero]
    exact ⟨rfl, rfl⟩
  obtain ⟨hlevel, hlayer⟩ := hparts h
  obtain ⟨hlevel', hlayer'⟩ := hparts h'
  rw [hnumber] at hlevel hlayer
  exact ⟨UInt32.toNat_inj.mp (hlevel.symm.trans hlevel'),
    UInt32.toNat_inj.mp (hlayer.symm.trans hlayer')⟩

end ResourceDesc

namespace Gpu

open Dialogue

/-- If a level has a layout, then its size is that of the level. -/
theorem size_of_levelLayout? {d : ResourceDesc} {level : UInt32} {l : LevelLayout}
    (h : levelLayout? d level = some l) : l.size = d.levelBytes level := by
  simp only [levelLayout?, Option.bind_eq_bind, Option.bind_eq_some_iff, Option.pure_def,
    Option.some.injEq] at h
  obtain ⟨row, hrow, size, hsize, rfl⟩ := h
  simp only [checkedProduct, Option.ite_none_right_eq_some, Option.some.injEq] at hrow
  simp only [addressable, Option.ite_none_right_eq_some, Option.some.injEq] at hsize
  obtain ⟨hfits, rfl⟩ := hrow
  rw [← hsize.2, UInt32.toNat_mul, Nat.mod_eq_of_lt hfits]
  rfl

/-- Every level has its layout. -/
theorem levelLayouts?_eq_some {d : ResourceDesc} {layouts : List LevelLayout}
    (h : levelLayouts? d = some layouts) : layouts.length = d.levelCount.toNat ∧
      ∀ i (hi : i < layouts.length), levelLayout? d (.ofNat i) = some layouts[i] := by
  obtain ⟨hlength, hlayouts⟩ := List.forall₂_iff_get.mp (mapM_eq_some_iff.mp h)
  rw [List.length_range] at hlength
  refine ⟨hlength.symm, fun i hi => ?_⟩
  have hlayout := hlayouts i (by rw [List.length_range]; omega) hi
  simpa using hlayout

/-! ## Filling subresources from the front -/

/-- A subresource with the layout of its level. -/
structure Part where
  level : UInt32
  layer : UInt32
  layout : LevelLayout

/-- Writes the front of a payload to a subresource. -/
def Part.upload (p : Part) (payload : List UInt8) : Upload :=
  ⟨p.level, p.layer, p.layout, p.layout.contents payload⟩

/-- Writes a payload to one subresource after the other, as far as it reaches. -/
def fill : List Part → List UInt8 → List Upload
  | [], _ => []
  | _ :: _, [] => []
  | p :: more, payload => p.upload payload :: fill more (payload.drop p.layout.size)

/-- The bytes of some subresources. -/
def bytesOf (parts : List Part) : Nat := (parts.map (·.layout.size)).sum

section Filling

variable {p : Part} {parts parts' : List Part} {payload : List UInt8}

/-- No parts have no bytes. -/
@[simp] theorem bytesOf_nil : bytesOf [] = 0 := rfl

/-- The bytes of the first part and of the others. -/
@[simp] theorem bytesOf_cons : bytesOf (p :: parts) = p.layout.size + bytesOf parts := rfl

/-- The bytes of two lists of parts are those of both. -/
@[simp] theorem bytesOf_append : bytesOf (parts ++ parts') = bytesOf parts + bytesOf parts' := by
  simp [bytesOf]

/-- Without a payload nothing is filled. -/
@[simp] theorem fill_nil : fill parts [] = [] := by
  cases parts <;> rfl

theorem fill_cons (hpayload : payload ≠ []) :
    fill (p :: parts) payload = p.upload payload :: fill parts (payload.drop p.layout.size) := by
  cases payload with
  | nil => exact absurd rfl hpayload
  | cons => rfl

theorem fill_append : fill (parts ++ parts') payload =
    fill parts payload ++ fill parts' (payload.drop (bytesOf parts)) := by
  induction parts generalizing payload with
  | nil => rfl
  | cons p parts ih =>
    by_cases hpayload : payload = []
    · simp [hpayload]
    · rw [List.cons_append, fill_cons hpayload, fill_cons hpayload, ih, List.drop_drop,
        bytesOf_cons, List.cons_append]

/-- A subresource is written if the payload reaches its first byte, and gets what begins there. -/
theorem getElem?_fill (parts : List Part) (payload : List UInt8) (k : Nat) :
    (fill parts payload)[k]? =
      if bytesOf (parts.take k) < payload.length then
        parts[k]?.map (·.upload (payload.drop (bytesOf (parts.take k))))
      else none := by
  induction parts generalizing payload k with
  | nil => simp [fill]
  | cons p parts ih =>
    by_cases hpayload : payload = []
    · simp [hpayload]
    · rw [fill_cons hpayload]
      cases k with
      | zero => simp [List.length_pos_iff.mpr hpayload]
      | succ k =>
        -- Behind the first subresource the payload is shorter by its bytes.
        have hreach : bytesOf (parts.take k) < (payload.drop p.layout.size).length ↔
            p.layout.size + bytesOf (parts.take k) < payload.length := by
          rw [List.length_drop]
          omega
        rw [List.getElem?_cons_succ, ih, if_congr hreach rfl rfl, List.drop_drop,
          List.take_succ_cons, bytesOf_cons, List.getElem?_cons_succ]

/-- The contents of a level have its size. -/
theorem length_contents (l : LevelLayout) (payload : List UInt8) :
    (l.contents payload).length = l.size := by
  simp only [LevelLayout.contents, List.length_append, List.length_replicate, List.length_take]
  omega

/-- All contents together are what the subresources have room for, with zeros up to the end of the
    last one that is written. -/
theorem flatMap_contents_fill (parts : List Part) (payload : List UInt8) :
    (fill parts payload).flatMap (·.contents) = payload.take (bytesOf parts) ++
      List.replicate (bytesOf (parts.take (fill parts payload).length) - payload.length) 0 := by
  induction parts generalizing payload with
  | nil => simp [fill]
  | cons p parts ih =>
    by_cases hpayload : payload = []
    · simp [hpayload]
    · rw [fill_cons hpayload, List.flatMap_cons, ih]
      simp only [Part.upload, LevelLayout.contents, List.length_cons, List.take_succ_cons,
        bytesOf_cons, List.length_drop, List.length_take]
      by_cases hsize : p.layout.size ≤ payload.length
      · have hnone : p.layout.size - min p.layout.size payload.length = 0 := by omega
        have hzeros (n : Nat) : p.layout.size + n - payload.length =
            n - (payload.length - p.layout.size) := by omega
        rw [hnone, List.replicate_zero, List.append_nil, ← List.append_assoc, ← List.take_add,
          hzeros]
      · -- The payload ends within this subresource.
        have hsize : payload.length ≤ p.layout.size := by omega
        have hnone : payload.drop p.layout.size = [] := List.drop_eq_nil_of_le hsize
        have htotal : payload.length ≤ p.layout.size + bytesOf parts := by omega
        simp only [hnone, fill_nil, List.take_nil, List.length_nil, List.take_zero, bytesOf_nil,
          Nat.zero_sub, Nat.add_zero, List.replicate_zero, List.append_nil, Nat.min_eq_right hsize,
          List.take_of_length_le hsize, List.take_of_length_le htotal]

end Filling

/-! ## The subresources of a texture in order -/

/-- The levels of a layer from a level on. -/
def layerParts (layer level : UInt32) : List LevelLayout → List Part
  | [] => []
  | layout :: more => ⟨level, layer, layout⟩ :: layerParts layer (level + 1) more

/-- The levels of a number of layers from a layer on. -/
def layersParts (layouts : List LevelLayout) : (layers : Nat) → (layer : UInt32) → List Part
  | 0, _ => []
  | layers + 1, layer => layerParts layer 0 layouts ++ layersParts layouts layers (layer + 1)

section Parts

variable {layouts : List LevelLayout} {payload : List UInt8} {layer level : UInt32}

/-- The uploads of a layer fill its parts, level by level. -/
theorem layerUploads_eq_fill : layerUploads layer level layouts payload =
    (fill (layerParts layer level layouts) payload,
      payload.drop (bytesOf (layerParts layer level layouts))) := by
  induction layouts generalizing level payload with
  | nil => rfl
  | cons layout layouts ih =>
    by_cases hpayload : payload = []
    · subst hpayload
      rw [layerUploads, fill_nil, List.drop_nil]
    · rw [layerUploads.eq_3 _ _ _ _ _ hpayload, ih, layerParts, fill_cons hpayload, List.drop_drop]
      rfl

/-- The uploads of layers fill the list of their subresources. -/
theorem uploads_eq_fill (layers : Nat) :
    uploads layouts layers layer payload = fill (layersParts layouts layers layer) payload := by
  induction layers generalizing layer payload with
  | zero => rfl
  | succ layers ih =>
    by_cases hpayload : payload = []
    · subst hpayload
      rw [uploads, fill_nil]
    · rw [uploads.eq_3 _ _ _ _ hpayload, layerUploads_eq_fill, layersParts, fill_append]
      exact congrArg _ ih

/-- A layer has a part for each level. -/
@[simp] theorem length_layerParts : (layerParts layer level layouts).length = layouts.length := by
  induction layouts generalizing level with
  | nil => rfl
  | cons layout layouts ih => rw [layerParts, List.length_cons, ih, List.length_cons]

/-- The parts of a layer are its levels, in order. -/
theorem getElem?_layerParts (i : Nat) : (layerParts layer level layouts)[i]? =
    layouts[i]?.map fun layout => ⟨level + .ofNat i, layer, layout⟩ := by
  induction layouts generalizing level i with
  | nil => rfl
  | cons layout layouts ih =>
    cases i with
    | zero => simp [layerParts]
    | succ i =>
      have hlevel : level + 1 + UInt32.ofNat i = level + UInt32.ofNat (i + 1) := by
        rw [UInt32.ofNat_add, UInt32.add_assoc, UInt32.add_comm 1]
        rfl
      rw [layerParts, List.getElem?_cons_succ, ih, List.getElem?_cons_succ, hlevel]

/-- Layers have a part for each of their levels. -/
theorem length_layersParts (layers : Nat) :
    (layersParts layouts layers layer).length = layouts.length * layers := by
  induction layers generalizing layer with
  | zero => rfl
  | succ layers ih =>
    rw [layersParts, List.length_append, length_layerParts, ih, Nat.mul_succ, Nat.add_comm]

/-- Levels vary fastest. -/
theorem getElem?_layersParts {layers k : Nat} (hk : k < layouts.length * layers) :
    (layersParts layouts layers layer)[k]? = layouts[k % layouts.length]?.map fun layout =>
      ⟨.ofNat (k % layouts.length), layer + .ofNat (k / layouts.length), layout⟩ := by
  induction layers generalizing layer k with
  | zero => simp at hk
  | succ layers ih =>
    rw [layersParts]
    -- The part is one of the first layer's, or one of the layers behind it.
    by_cases hfirst : k < layouts.length
    · rw [List.getElem?_append_left (by simpa using hfirst), getElem?_layerParts,
        Nat.mod_eq_of_lt hfirst, Nat.div_eq_of_lt hfirst]
      simp
    · obtain ⟨k, rfl⟩ := Nat.exists_eq_add_of_le (Nat.not_lt.mp hfirst)
      have hpos : 0 < layouts.length := by
        apply Nat.pos_of_ne_zero
        intro hzero
        simp [hzero] at hk
      -- The layers behind are counted from the second, so one is added back.
      have hlayer : layer + 1 + UInt32.ofNat (k / layouts.length) =
          layer + UInt32.ofNat (k / layouts.length + 1) := by
        rw [UInt32.ofNat_add, UInt32.add_assoc, UInt32.add_comm 1]
        rfl
      rw [List.getElem?_append_right (by simp), length_layerParts, Nat.add_sub_cancel_left,
        ih (by rw [Nat.mul_succ] at hk; omega), Nat.add_mod_left, Nat.add_div_left _ hpos, hlayer]

end Parts

/-! ## Partitions -/

/-- Writes that divide a payload among the subresources of a texture, in the order of their
    numbers.  The last one that is written is filled up with zeros. -/
structure Partitions (d : ResourceDesc) (payload : List UInt8) (texture : Object .texture)
    (writes : List TextureWrite) : Prop where
  target : ∀ w ∈ writes, w.place.texture = texture ∧ w.place.aspect = .all
  numbered : ∀ k w, writes[k]? = some w → d.Has w.place.level w.place.layer ∧
    d.subresourceNumber w.place.level w.place.layer = k
  distinct : (writes.map fun w => (w.place.level, w.place.layer)).Nodup
  sized : ∀ w ∈ writes, ∃ l, levelLayout? d w.place.level = some l ∧ w.contents.length = l.size ∧
    w.size = l.extent ∧ w.layout = ⟨l.row, l.height⟩
  contents : writes.flatMap (·.contents) =
    payload.take (d.subresourceOffset d.subresourceTotal) ++
      List.replicate (d.subresourceOffset writes.length - payload.length) 0
  written : ∀ level layer, d.Has level layer →
    ((∃ w ∈ writes, w.place.level = level ∧ w.place.layer = layer) ↔
      d.subresourceOffset (d.subresourceNumber level layer) < payload.length)

section Partitions

variable {d : ResourceDesc} {layouts : List LevelLayout} {payload : List UInt8} {k : Nat}

/-- The subresources of a texture in order. -/
def subresources (d : ResourceDesc) (layouts : List LevelLayout) : List Part :=
  layersParts layouts d.layerCount.toNat 0

/-- There is a part for each subresource. -/
theorem length_subresources (h : levelLayouts? d = some layouts) :
    (subresources d layouts).length = d.subresourceTotal := by
  rw [subresources, length_layersParts, (levelLayouts?_eq_some h).1]
  rfl

/-- The subresource at a place of the list has the number of the place. -/
theorem getElem?_subresources (h : levelLayouts? d = some layouts) (hk : k < d.subresourceTotal) :
    ∃ p : Part, (subresources d layouts)[k]? = some p ∧ d.Has p.level p.layer ∧
      d.subresourceNumber p.level p.layer = k ∧ levelLayout? d p.level = some p.layout ∧
      p.layout.size = d.levelBytes (.ofNat (k % d.levelCount.toNat)) := by
  obtain ⟨hlength, hlayouts⟩ := levelLayouts?_eq_some h
  have hpos : 0 < d.levelCount.toNat := Nat.pos_of_mul_pos_right (Nat.zero_lt_of_lt hk)
  have hlevel : k % d.levelCount.toNat < d.levelCount.toNat := Nat.mod_lt k hpos
  have hlayer : k / d.levelCount.toNat < d.layerCount.toNat := Nat.div_lt_of_lt_mul hk
  -- Below the counts of levels and of layers numbers are words.
  have htoNat {n m : Nat} (hn : n < m) (hm : m < UInt32.size) : (UInt32.ofNat n).toNat = n :=
    UInt32.toNat_ofNat_of_lt' (Nat.lt_trans hn hm)
  obtain ⟨layout, hget, hlayout⟩ : ∃ layout, layouts[k % d.levelCount.toNat]? = some layout ∧
      levelLayout? d (.ofNat (k % d.levelCount.toNat)) = some layout :=
    ⟨_, List.getElem?_eq_getElem (by omega), hlayouts _ (by omega)⟩
  refine ⟨⟨.ofNat (k % d.levelCount.toNat), .ofNat (k / d.levelCount.toNat), layout⟩, ?_,
    ⟨?_, ?_⟩, ?_, hlayout, size_of_levelLayout? hlayout⟩
  · rw [subresources, getElem?_layersParts (by rw [hlength]; exact hk), hlength, UInt32.zero_add,
      hget]
    rfl
  · rwa [htoNat hlevel d.levelCount.toNat_lt]
  · rwa [htoNat hlayer d.layerCount.toNat_lt]
  · rw [ResourceDesc.subresourceNumber, htoNat hlevel d.levelCount.toNat_lt,
      htoNat hlayer d.layerCount.toNat_lt, Nat.div_add_mod']

/-- A subresource begins behind those before it. -/
theorem bytesOf_take_subresources (h : levelLayouts? d = some layouts)
    (hk : k ≤ d.subresourceTotal) :
    bytesOf ((subresources d layouts).take k) = d.subresourceOffset k := by
  induction k with
  | zero => rfl
  | succ k ih =>
    obtain ⟨p, hp, -, -, -, hsize⟩ := getElem?_subresources h hk
    rw [List.take_add_one, hp, bytesOf_append, ih (Nat.le_of_succ_le hk),
      ResourceDesc.subresourceOffset, ResourceDesc.subresourceOffset, List.range_succ,
      List.map_append, List.sum_append_nat]
    simp [hsize]

/-- All subresources end at the end of the last one. -/
theorem bytesOf_subresources (h : levelLayouts? d = some layouts) :
    bytesOf (subresources d layouts) = d.subresourceOffset d.subresourceTotal := by
  rw [← bytesOf_take_subresources h (Nat.le_refl _), ← length_subresources h, List.take_length]

/-- No more parts are filled than there are. -/
theorem length_fill_le (parts : List Part) (payload : List UInt8) :
    (fill parts payload).length ≤ parts.length := by
  apply Nat.not_lt.mp
  intro hlong
  have hnone := getElem?_fill parts payload parts.length
  rw [List.getElem?_eq_getElem hlong] at hnone
  simp at hnone

/-- The writes that fill the subresources of a texture. -/
def payloadWrites (d : ResourceDesc) (layouts : List LevelLayout) (payload : List UInt8)
    (texture : Object .texture) : List TextureWrite :=
  (fill (subresources d layouts) payload).map (·.write texture)

section Writes

variable (payload : List UInt8) (texture : Object .texture) {w : TextureWrite}

/-- There is a write for a number if the payload reaches the first byte of the subresource. -/
theorem getElem?_payloadWrites (h : levelLayouts? d = some layouts) (hk : k < d.subresourceTotal) :
    ∃ p : Part, d.Has p.level p.layer ∧ d.subresourceNumber p.level p.layer = k ∧
      levelLayout? d p.level = some p.layout ∧ (payloadWrites d layouts payload texture)[k]? =
        if d.subresourceOffset k < payload.length then
          some ((p.upload (payload.drop (d.subresourceOffset k))).write texture)
        else none := by
  obtain ⟨p, hp, hhas, hnumber, hlayout, -⟩ := getElem?_subresources h hk
  refine ⟨p, hhas, hnumber, hlayout, ?_⟩
  rw [payloadWrites, List.getElem?_map, getElem?_fill,
    bytesOf_take_subresources h (Nat.le_of_lt hk), hp]
  split <;> rfl

/-- There are no more writes than subresources. -/
theorem length_payloadWrites_le (h : levelLayouts? d = some layouts) :
    (payloadWrites d layouts payload texture).length ≤ d.subresourceTotal := by
  rw [payloadWrites, List.length_map, ← length_subresources h]
  exact length_fill_le _ _

variable {payload texture}

/-- Every write is that of a subresource. -/
theorem exists_of_getElem?_payloadWrites (h : levelLayouts? d = some layouts)
    (hw : (payloadWrites d layouts payload texture)[k]? = some w) :
    ∃ p : Part, d.Has p.level p.layer ∧ d.subresourceNumber p.level p.layer = k ∧
      levelLayout? d p.level = some p.layout ∧ d.subresourceOffset k < payload.length ∧
      w = (p.upload (payload.drop (d.subresourceOffset k))).write texture := by
  have hk : k < d.subresourceTotal :=
    Nat.lt_of_lt_of_le (List.getElem?_eq_some_iff.mp hw).1 (length_payloadWrites_le _ _ h)
  obtain ⟨p, hhas, hnumber, hlayout, hwrite⟩ := getElem?_payloadWrites payload texture h hk
  rw [hwrite] at hw
  obtain ⟨hreach, heq⟩ := Option.ite_none_right_eq_some.mp hw
  exact ⟨p, hhas, hnumber, hlayout, hreach, (Option.some.inj heq).symm⟩

/-- The writes are in the order of the numbers of their subresources. -/
theorem number_of_getElem?_payloadWrites (h : levelLayouts? d = some layouts)
    (hw : (payloadWrites d layouts payload texture)[k]? = some w) :
    d.Has w.place.level w.place.layer ∧ d.subresourceNumber w.place.level w.place.layer = k := by
  obtain ⟨p, hhas, hnumber, -, -, rfl⟩ := exists_of_getElem?_payloadWrites h hw
  exact ⟨hhas, hnumber⟩

end Writes

/-- Filling the subresources of a texture divides the payload. -/
theorem partitions_payloadWrites (h : levelLayouts? d = some layouts) (payload : List UInt8)
    (texture : Object .texture) :
    Partitions d payload texture (payloadWrites d layouts payload texture) where
  target w hw := by
    obtain ⟨u, -, rfl⟩ := List.mem_map.mp hw
    exact ⟨rfl, rfl⟩
  numbered k w hw := number_of_getElem?_payloadWrites h hw
  distinct := by
    -- Equal subresources have equal numbers, and each number has its own write.
    rw [List.Nodup, List.pairwise_map, List.pairwise_iff_getElem]
    intro i j hi hj hless heq
    obtain ⟨hlevel, hlayer⟩ := Prod.mk.inj heq
    have hi := (number_of_getElem?_payloadWrites h (List.getElem?_eq_getElem hi)).2
    have hj := (number_of_getElem?_payloadWrites h (List.getElem?_eq_getElem hj)).2
    rw [hlevel, hlayer, hj] at hi
    omega
  sized w hw := by
    obtain ⟨k, hk⟩ := List.mem_iff_getElem?.mp hw
    obtain ⟨p, -, -, hlayout, -, rfl⟩ := exists_of_getElem?_payloadWrites h hk
    exact ⟨p.layout, hlayout, length_contents _ _, rfl, rfl⟩
  contents := by
    have hcontents : (payloadWrites d layouts payload texture).flatMap (·.contents) =
        (fill (subresources d layouts) payload).flatMap (·.contents) := List.flatMap_map ..
    have hle := length_payloadWrites_le payload texture h
    rw [payloadWrites, List.length_map] at hle
    rw [hcontents, flatMap_contents_fill, bytesOf_subresources h, bytesOf_take_subresources h hle,
      payloadWrites, List.length_map]
  written level layer hhas := by
    constructor
    · rintro ⟨w, hw, rfl, rfl⟩
      obtain ⟨k, hk⟩ := List.mem_iff_getElem?.mp hw
      obtain ⟨p, -, hnumber, -, hreach, rfl⟩ := exists_of_getElem?_payloadWrites h hk
      exact hnumber ▸ hreach
    · intro hreach
      obtain ⟨p, hhas', hnumber, -, hwrite⟩ :=
        getElem?_payloadWrites payload texture h hhas.number_lt
      rw [if_pos hreach] at hwrite
      exact ⟨_, List.mem_of_getElem? hwrite, hhas'.eq_of_number_eq hhas hnumber⟩

end Partitions

/-! ## Creating a texture -/

/-- The write of a call. -/
def Call.write? : Call → Option TextureWrite
  | .writeTexture w => some w
  | _ => none

/-- What is written to textures. -/
def textureWrites (calls : List (Dialogue.Event Call.Answer)) : List TextureWrite :=
  calls.filterMap fun call => call.question.write?

section Creation

variable {d : ResourceDesc} {layouts : List LevelLayout} {payload : List UInt8}
  {format : TextureFormat} {calls : List (Dialogue.Event Call.Answer)}
  {result : Except BackendError Handle}

/-- Uploads are written in order. -/
theorem textureWrites_of_writeAll {texture : Object .texture} {uploads : List Upload} {u : Unit}
    (hrun : (writeAll texture uploads).Runs calls u) :
    textureWrites calls = uploads.map (·.write texture) := by
  induction uploads generalizing calls with
  | nil =>
    obtain ⟨rfl, -⟩ := runs_done_iff.mp hrun
    rfl
  | cons upload uploads ih =>
    obtain ⟨_, rest, rfl, hrest⟩ := runs_question_bind_iff.mp hrun
    rw [textureWrites, List.filterMap_cons, List.map_cons]
    exact congrArg _ (ih hrest)

end Creation

/-- Two layers of two levels, of 16 bytes and 4. -/
def twoLayers : ResourceDesc :=
  { ResourceDesc.fresh .texture 0 with
    dimension := .texture2dArray, format := .r32Float, texelSize := 4, width := 2, height := 2
    layerCount := 2, levelCount := 2 }

/-- A payload that ends in the second layer. -/
def longPayload : List UInt8 := List.replicate 20 1 ++ [2]

/-- How a simulated device creates the texture. -/
def twoLayersCalls : List (Dialogue.Event Call.Answer) :=
  (createTextureOf twoLayers longPayload .r32Float
    [⟨2, 2, 1, 8, 16⟩, ⟨1, 1, 1, 4, 4⟩]).transcript
    (Simulated.answer ⟨none, false, fun _ => false, fun _ => false, fun _ => false, fun _ => false⟩)
    .fresh

end Gpu

end ShaderConformance
