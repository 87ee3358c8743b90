import ShaderConformance.Proofs.Encodings
import ShaderConformance.Proofs.RegistryHistory

/-!
# What a draw draws to

The colour attachments of a draw are the live render targets in the order of their slots, and so
are the colour targets of its pipeline.  They are packed: the render target of a slot is at the
index of the slot as long as there are render targets in all slots before it.

The samples of the pipeline are those of the render target with the lowest slot, be it a texture
or a buffer.  The depth texture has no say in them.

## Main definitions

- `Gpu.AtSlots`: the items for render targets are at the indices of their slots
- `Gpu.NoGaps`: there are render targets in all slots before one
- `Gpu.SampledAs`: all that is drawn to has as many samples

## Main statements

- `Gpu.toNat_of_getElem?`: slots without gaps are the indices that they are at
- `Gpu.InSlotOrder.atSlots_iff`: items in the order of slots are at the indices of their slots if
  and only if there are no gaps
- `Gpu.attachments_of_draw`: where a draw has its render targets
- `Gpu.sampleCount_of_draw`: when the pipeline of a draw has the samples of what is drawn to
-/

namespace ShaderConformance.Gpu

open Dialogue

/-! ## Slots and indices -/

/-- Items that belong together are at the same indices. -/
theorem getElem?_of_forall₂ {S T : Type} {R : S → T → Prop} {xs : List S} {ys : List T}
    (h : List.Forall₂ R xs ys) (k : Nat) :
    (xs[k]? = none ∧ ys[k]? = none) ∨ ∃ x y, xs[k]? = some x ∧ ys[k]? = some y ∧ R x y := by
  induction h generalizing k with
  | nil => exact .inl ⟨rfl, rfl⟩
  | @cons x y xs ys hxy _ ih =>
    cases k with
    | zero => exact .inr ⟨x, y, rfl, rfl, hxy⟩
    | succ k => exact ih k

/-- Lists that are related to the same list are related to each other. -/
theorem forall₂_comp {R S T : Type} {P : R → S → Prop} {Q : S → T → Prop} {xs : List R}
    {ys : List S} {zs : List T} (h : List.Forall₂ P xs ys) (h' : List.Forall₂ Q ys zs) :
    List.Forall₂ (fun x z => ∃ y, P x y ∧ Q y z) xs zs := by
  induction h generalizing zs with
  | nil =>
    cases h'
    exact .nil
  | cons hxy _ ih =>
    cases h' with
    | cons hyz hrest => exact .cons ⟨_, hxy, hyz⟩ (ih hrest)

/-- Ascending slots without gaps are the indices that they are at. -/
theorem toNat_of_getElem? {slots : List UInt32} (hascending : slots.Pairwise (· < ·))
    (hclosed : ∀ slot slot', slot < slot' → slot' ∈ slots → slot ∈ slots) (k : Nat) (slot : UInt32)
    (hslot : slots[k]? = some slot) : slot.toNat = k := by
  induction k using Nat.strongRecOn generalizing slot with
  | ind k ih =>
    have hless {i j : Nat} {a b : UInt32} (ha : slots[i]? = some a) (hb : slots[j]? = some b)
        (hij : i < j) : a.toNat < b.toNat := by
      obtain ⟨hi, rfl⟩ := List.getElem?_eq_some_iff.mp ha
      obtain ⟨hj, rfl⟩ := List.getElem?_eq_some_iff.mp hb
      exact UInt32.lt_iff_toNat_lt.mp (List.pairwise_iff_getElem.mp hascending i j hi hj hij)
    obtain hbelow | heq | habove := Nat.lt_trichotomy slot.toNat k
    · -- An earlier index has a slot that is not less than this one.
      have hlength : slot.toNat < slots.length :=
        Nat.lt_trans hbelow (List.getElem?_eq_some_iff.mp hslot).1
      have hearlier := List.getElem?_eq_getElem hlength
      have hindex := ih slot.toNat hbelow _ hearlier
      exact absurd (hless hearlier hslot hbelow) (by omega)
    · exact heq
    · -- The slot with the number of the index comes earlier, where it would have a smaller number.
      have hk : k < UInt32.size := Nat.lt_trans habove slot.toNat_lt
      have hnumber : (UInt32.ofNat k).toNat = k := UInt32.toNat_ofNat_of_lt' hk
      have hmem : UInt32.ofNat k ∈ slots := by
        refine hclosed _ slot ?_ (List.mem_of_getElem? hslot)
        rw [UInt32.lt_iff_toNat_lt, hnumber]
        exact habove
      obtain ⟨j, hj⟩ := List.mem_iff_getElem?.mp hmem
      have hjk : j < k := by
        by_contra hnot
        obtain hlt | rfl := Nat.lt_or_eq_of_le (Nat.not_lt.mp hnot)
        · have := hless hslot hj hlt
          omega
        · rw [Option.some.inj (hslot.symm.trans hj)] at habove
          omega
      have hindex := ih j hjk _ hj
      omega

/-! ## Render targets -/

/-- A texture that lives as the render target of a slot. -/
def IsRenderTarget (state : RenderState Handle) (slot : UInt32) (texture : Texture) : Prop :=
  ∃ resource, state.registry.get? ⟨.renderTarget, slot⟩ = some resource ∧
    resource.handle = .texture texture

/-- There is no slot without a render target below one with a render target. -/
def NoGaps (state : RenderState Handle) : Prop :=
  ∀ slot slot' : UInt32, slot < slot' →
    (state.registry.get? ⟨.renderTarget, slot'⟩).isSome →
      (state.registry.get? ⟨.renderTarget, slot⟩).isSome

/-- The item for the render target of a slot is at the index of the slot, and at the index of a
    slot without a render target there is none. -/
structure AtSlots {T : Type} (state : RenderState Handle) (R : Texture → T → Prop)
    (items : List T) : Prop where
  placed : ∀ slot texture, IsRenderTarget state slot texture →
    ∃ item, items[slot.toNat]? = some item ∧ R texture item
  hole : ∀ slot, state.registry.get? ⟨.renderTarget, slot⟩ = none → items[slot.toNat]? = none

/-- One item for each live render target, in the order of their slots. -/
structure InSlotOrder {T : Type} (state : RenderState Handle) (R : Texture → T → Prop)
    (slots : List UInt32) (items : List T) : Prop where
  ascending : slots.Pairwise (· < ·)
  mem_iff : ∀ slot, slot ∈ slots ↔ (state.registry.get? ⟨.renderTarget, slot⟩).isSome
  items : List.Forall₂
    (fun slot item => ∃ texture, IsRenderTarget state slot texture ∧ R texture item) slots items

section Targets

variable {state : RenderState Handle} {T : Type} {R : Texture → T → Prop} {slots : List UInt32}
  {items : List T} {slot : UInt32} {texture texture' : Texture}

/-- A slot has one render target. -/
theorem IsRenderTarget.unique (h : IsRenderTarget state slot texture)
    (h' : IsRenderTarget state slot texture') : texture = texture' := by
  obtain ⟨resource, hlive, hhandle⟩ := h
  obtain ⟨resource', hlive', hhandle'⟩ := h'
  obtain rfl := Option.some.inj (hlive.symm.trans hlive')
  exact Handle.texture.inj (hhandle.symm.trans hhandle')

/-- The items are at the indices of the slots if and only if there are no gaps. -/
theorem InSlotOrder.atSlots_iff (h : InSlotOrder state R slots items) :
    AtSlots state R items ↔ NoGaps state := by
  constructor
  · intro hat slot slot' hless hlive
    -- The item of the higher slot is at an index with one for every lower slot before it.
    obtain ⟨k, hk⟩ := List.mem_iff_getElem?.mp ((h.mem_iff slot').mpr hlive)
    obtain ⟨hnone, -⟩ | ⟨_, item, hslot, -, texture, htarget, -⟩ := getElem?_of_forall₂ h.items k
    · rw [hk] at hnone
      cases hnone
    · obtain rfl := Option.some.inj (hk.symm.trans hslot)
      obtain ⟨item', hitem', -⟩ := hat.placed slot' texture htarget
      rw [Option.isSome_iff_ne_none]
      intro hfree
      have hbelow := List.getElem?_eq_none_iff.mp (hat.hole slot hfree)
      have habove := (List.getElem?_eq_some_iff.mp hitem').1
      have := UInt32.lt_iff_toNat_lt.mp hless
      omega
  · intro hgaps
    have hindex := toNat_of_getElem? h.ascending fun slot slot' hless hmem =>
      (h.mem_iff slot).mpr (hgaps slot slot' hless ((h.mem_iff slot').mp hmem))
    constructor
    · intro slot texture htarget
      have hlive : (state.registry.get? ⟨.renderTarget, slot⟩).isSome := by
        obtain ⟨resource, hlive, -⟩ := htarget
        rw [hlive]
        rfl
      obtain ⟨k, hk⟩ := List.mem_iff_getElem?.mp ((h.mem_iff slot).mpr hlive)
      rw [hindex k slot hk]
      obtain ⟨hnone, -⟩ | ⟨_, item, hslot, hitem, texture', htarget', hR⟩ :=
        getElem?_of_forall₂ h.items k
      · rw [hk] at hnone
        cases hnone
      · obtain rfl := Option.some.inj (hk.symm.trans hslot)
        exact ⟨item, hitem, htarget.unique htarget' ▸ hR⟩
    · intro slot hfree
      obtain ⟨-, hnone⟩ | ⟨slot', item, hslot', -⟩ := getElem?_of_forall₂ h.items slot.toNat
      · exact hnone
      · -- The slot at the index has the number of the slot without a render target.
        obtain rfl := UInt32.toNat_inj.mp (hindex _ slot' hslot')
        have hlive := (h.mem_iff slot').mp (List.mem_of_getElem? hslot')
        rw [hfree] at hlive
        cases hlive

/-! ## Sorted targets -/

/-- The sorted render targets are the live ones. -/
theorem mem_renderTargets {resource : Resource Handle} :
    resource ∈ renderTargets state ↔ resource ∈ state.registry.ofType .renderTarget :=
  (List.mergeSort_perm _ _).mem_iff

/-- Render targets are in the order of their slots. -/
theorem sorted_renderTargets :
    (renderTargets state).Pairwise fun a b => a.desc.slot ≤ b.desc.slot :=
  pairwise_mergeSort_key (fun r : Resource Handle => r.desc.slot) _

/-- No two render targets have the same slot. -/
theorem ascending_renderTargets (h : (state.registry.resources.map Resource.ref).Nodup) :
    ((renderTargets state).map (·.desc.slot)).Pairwise (· < ·) := by
  have hnames : (state.registry.ofType .renderTarget).Pairwise fun a b => a.ref ≠ b.ref :=
    (List.pairwise_map.mp h).filter _
  have hdistinct : (renderTargets state).Pairwise fun a b => a.ref ≠ b.ref :=
    (List.mergeSort_perm _ _).symm.pairwise hnames Ne.symm
  refine List.pairwise_map.mpr ((sorted_renderTargets.and hdistinct).imp_of_mem ?_)
  rintro a b ha hb ⟨hle, hne⟩
  refine UInt32.lt_of_le_of_ne hle fun hslot => hne ?_
  rw [Resource.ref, Resource.ref, ResourceDesc.ref, ResourceDesc.ref, hslot,
    (Registry.mem_ofType.mp (mem_renderTargets.mp ha)).2,
    (Registry.mem_ofType.mp (mem_renderTargets.mp hb)).2]

variable {history : RegistryHistory Handle}

/-- A render target is found at its slot. -/
theorem get?_of_mem_renderTargets (hmap : history.IsOrderedMap)
    (hregistry : state.registry = history.registry) {resource : Resource Handle}
    (h : resource ∈ renderTargets state) :
    state.registry.get? ⟨.renderTarget, resource.desc.slot⟩ = some resource := by
  obtain ⟨hmem, htype⟩ := Registry.mem_ofType.mp (mem_renderTargets.mp h)
  rw [hregistry] at hmem ⊢
  exact hmap.get?_eq_some_iff.mpr ⟨hmem, by rw [← htype]; rfl⟩

/-- The slots of the render targets are those under which one is found. -/
theorem mem_slots_renderTargets (hmap : history.IsOrderedMap)
    (hregistry : state.registry = history.registry) :
    slot ∈ (renderTargets state).map (·.desc.slot) ↔
      (state.registry.get? ⟨.renderTarget, slot⟩).isSome := by
  rw [List.mem_map]
  constructor
  · rintro ⟨resource, hmem, rfl⟩
    rw [get?_of_mem_renderTargets hmap hregistry hmem]
    rfl
  · intro hlive
    obtain ⟨resource, hget⟩ := Option.isSome_iff_exists.mp hlive
    have hget' := hget
    rw [hregistry] at hget'
    obtain ⟨hmem, hname⟩ := hmap.get?_eq_some_iff.mp hget'
    obtain ⟨htype, hslot⟩ := ResourceRef.mk.inj hname
    have hoftype := Registry.mem_ofType.mpr ⟨hregistry ▸ hmem, htype⟩
    exact ⟨resource, mem_renderTargets.mpr hoftype, hslot⟩

/-- If all render targets are textures, then these are in the order of the slots. -/
theorem InSlotOrder.of_textures (hmap : history.IsOrderedMap)
    (hregistry : state.registry = history.registry)
    (htextures : ∀ r ∈ state.registry.ofType .renderTarget, ∃ texture, r.handle = .texture texture)
    (hitems : List.Forall₂ R ((renderTargets state).filterMap textureOf?) items) :
    InSlotOrder state R ((renderTargets state).map (·.desc.slot)) items where
  ascending := ascending_renderTargets (hregistry ▸ hmap.refs_nodup)
  mem_iff _ := mem_slots_renderTargets hmap hregistry
  items := by
    refine forall₂_comp ?_ hitems
    -- By induction on the targets, all of which are textures.
    have htargets (targets : List (Resource Handle)) (h : ∀ r ∈ targets, r ∈ renderTargets state) :
        List.Forall₂ (IsRenderTarget state) (targets.map (·.desc.slot))
          (targets.filterMap textureOf?) := by
      induction targets with
      | nil => exact .nil
      | cons resource targets ih =>
        obtain ⟨hmem, hmore⟩ := List.forall_mem_cons.mp h
        obtain ⟨texture, htexture⟩ := htextures resource (mem_renderTargets.mp hmem)
        have hfound : textureOf? resource = some texture := by rw [textureOf?, htexture]
        rw [List.filterMap_cons_some hfound]
        exact .cons ⟨resource, get?_of_mem_renderTargets hmap hregistry hmem, htexture⟩ (ih hmore)
    exact htargets _ fun _ => id

end Targets

/-! ## Attachments -/

/-- An attachment that keeps what a texture holds, through a view of the whole texture that some
    calls created. -/
def Attaches (calls : List (Dialogue.Event Call.Answer)) (texture : Texture)
    (colour : ColourAttachment) : Prop :=
  ⟨.createView texture.object .whole, colour.view⟩ ∈ calls ∧ colour.load = .keep

section Draws

variable {device : Device} {state : RenderState Handle} {topology : Topology}
  {vertices instances : UInt32} {calls events : List (Dialogue.Event Call.Answer)} {ok : Bool}

/-- A draw has one pass, with its targets as attachments. -/
theorem renderPass_mem_drawCommands {parts : DrawParts} {pipeline : Object .renderPipeline}
    {label : String} {colours : List ColourAttachment} {depth : Option DepthAttachment}
    (h : .renderPass label colours depth ∈
      drawCommands device.formats parts pipeline vertices instances) :
    colours = parts.targets.map keptColour := by
  have hbuffers (first : Nat) (buffers : List (Object .buffer)) :
      .renderPass label colours depth ∉ bindVertexBuffers first buffers := by
    induction buffers generalizing first with
    | nil => exact List.not_mem_nil
    | cons object buffers ih => simpa [bindVertexBuffers] using ih (first + 1)
  have hpass : label = "Draw Pass" ∧ colours = parts.targets.map keptColour ∧
      depth = parts.depth.map (keptDepth device.formats) := by
    simpa [drawCommands, hbuffers] using h
  exact hpass.2.1

/-- Whatever order render targets that are textures were created or replaced in, a draw attaches
    them in the order of their slots, and its pipeline has their formats in that order.  So each is
    at the index of its slot, with nothing at the indices of other slots, if and only if there is no
    slot without a render target below one with a render target. -/
theorem attachments_of_draw (device : Device) (state : RenderState Handle)
    (ops : List (RegistryOp Handle))
    (hregistry : state.registry = (RegistryHistory.of ops).registry)
    (htextures : ∀ r ∈ state.registry.ofType .renderTarget, ∃ texture, r.handle = .texture texture)
    (hrun : (draw device state topology vertices instances).Runs calls ok) :
    (ok = true → ∃ label colours depth, .renderPass label colours depth ∈ submitted calls) ∧
    ∀ label colours depth, .renderPass label colours depth ∈ submitted calls →
      ∃ slots desc pipeline, ⟨.createRenderPipeline desc, pipeline⟩ ∈ calls ∧
        .setRenderPipeline pipeline ∈ submitted calls ∧
        InSlotOrder state (Attaches calls) slots colours ∧
        InSlotOrder state (fun texture format => format = texture.format) slots desc.targets ∧
        (AtSlots state (Attaches calls) colours ↔ NoGaps state) ∧
        (AtSlots state (fun texture format => format = texture.format) desc.targets ↔
          NoGaps state) := by
  have hmap := (RegistryHistory.tabulated_of ops).isOrderedMap
  obtain ⟨rfl, hprepared⟩ | ⟨parts, desc, pipeline, events, hdrawn, hcarry, -⟩ :=
    drawnFrom_of_draw hrun
  · -- A draw that is refused has no pass.
    rw [submitted_of_preparation hprepared]
    exact ⟨nofun, fun _ _ _ hpass => absurd hpass List.not_mem_nil⟩
  · obtain ⟨_, _, hsubmitted⟩ := hdrawn.submitted_eq
    obtain ⟨_, _, _, _, rfl⟩ := hdrawn.pipeline_eq
    -- The views of the targets are among the calls of the whole draw.
    have htargets : List.Forall₂ (IsTargetOf calls) ((renderTargets state).filterMap textureOf?)
        parts.targets :=
      hdrawn.targets.imp fun _ _ htarget => ⟨(hcarry.mem_iff id).mpr htarget.1, htarget.2⟩
    rw [hcarry.submitted_eq, hsubmitted]
    refine ⟨fun _ => ⟨_, _, _, List.mem_cons_self⟩, fun label colours depth hpass => ?_⟩
    obtain rfl := renderPass_mem_drawCommands hpass
    -- Attachments and formats come from the same sorted targets.
    have hcolours : InSlotOrder state (Attaches calls) ((renderTargets state).map (·.desc.slot))
        (parts.targets.map keptColour) := by
      refine .of_textures hmap hregistry htextures (List.forall₂_map_right_iff.mpr ?_)
      exact htargets.imp fun _ _ htarget => ⟨htarget.1, rfl⟩
    have hformats : InSlotOrder state (fun texture format => format = texture.format)
        ((renderTargets state).map (·.desc.slot)) (parts.targets.map Target.format) := by
      refine .of_textures hmap hregistry htextures (List.forall₂_map_right_iff.mpr ?_)
      exact htargets.imp fun _ _ htarget => htarget.2
    exact ⟨_, _, pipeline, (hcarry.mem_iff id).mpr hdrawn.created,
      List.mem_cons_of_mem _ List.mem_cons_self, hcolours, hformats, hcolours.atSlots_iff,
      hformats.atSlots_iff⟩

end Draws

/-- What a draw sees of what lives after some operations. -/
def drawnAfter (ops : List (RegistryOp Handle)) : RenderState Handle where
  shader
    | .vertex => some ⟨.vertex, .sm5_0, .wgsl [], "main", []⟩
    | .pixel => some ⟨.pixel, .sm5_0, .wgsl [], "main", []⟩
    | _ => none
  registry := (RegistryHistory.of ops).registry
  inputElements := []
  uniforms := []
  viewports := .replicate _ none
  fixed := .fresh

/-- A draw of a triangle with what lives after some operations. -/
def triangleAfter (ops : List (RegistryOp Handle)) : Program Bool :=
  draw plainDevice (drawnAfter ops) .triangleList 3 1

/-- A texture that is the render target of a slot. -/
def targetAt (slot : UInt32) (id : Nat) : Resource Handle :=
  ⟨.fresh .renderTarget slot, .texture ⟨⟨id⟩, .rgba32Float, .d2, 1⟩⟩

/-- Only slot 1 has a render target. -/
def gapped : List (RegistryOp Handle) := [.insert (targetAt 1 41)]

/-- Slots 0 and 1 have render targets, the one in slot 1 first. -/
def swapped : List (RegistryOp Handle) := [.insert (targetAt 1 41), .insert (targetAt 0 40)]

/-- The registry keeps the order of creation. -/
theorem ofType_swapped : (drawnAfter swapped).registry.ofType .renderTarget =
    [targetAt 1 41, targetAt 0 40] := rfl

/-- A draw takes the order of the slots. -/
theorem renderTargets_swapped :
    renderTargets (drawnAfter swapped) = [targetAt 0 40, targetAt 1 41] := by
  rw [renderTargets, ofType_swapped]
  simp [List.mergeSort, List.MergeSort.Internal.splitInTwo, targetAt, ResourceDesc.fresh]

/-- Both slots are taken, so there is no gap. -/
theorem noGaps_swapped : NoGaps (drawnAfter swapped) := by
  have hlive (slot : UInt32) :
      ((drawnAfter swapped).registry.get? ⟨.renderTarget, slot⟩).isSome ↔ 1 = slot ∨ 0 = slot := by
    have hresources : (drawnAfter swapped).registry.resources =
        [targetAt 1 41, targetAt 0 40] := rfl
    simp [Registry.get?, hresources, targetAt, Resource.ref, ResourceDesc.ref, ResourceDesc.fresh]
  intro slot slot' hless hlive'
  rw [hlive] at hlive' ⊢
  have hless : slot.toNat < slot'.toNat := UInt32.lt_iff_toNat_lt.mp hless
  obtain rfl | rfl := hlive'
  · have hzero : (0 : UInt32).toNat = slot.toNat := (Nat.lt_one_iff.mp hless).symm
    exact .inr (UInt32.toNat_inj.mp hzero)
  · exact absurd hless (Nat.not_lt_zero _)

/-- Two render targets are at the indices of their slots, whichever was created first.  Alone, the
    one in slot 1 is not at its index. -/
theorem attachments_of_draw_two_slots :
    (∃ label colours depth,
      .renderPass label colours depth ∈ submitted (simulatedCalls (triangleAfter swapped)) ∧
      AtSlots (drawnAfter swapped) (Attaches (simulatedCalls (triangleAfter swapped))) colours) ∧
    ∃ label colours depth,
      .renderPass label colours depth ∈ submitted (simulatedCalls (triangleAfter gapped)) ∧
      ¬ AtSlots (drawnAfter gapped) (Attaches (simulatedCalls (triangleAfter gapped))) colours := by
  constructor
  · -- Created the other way round, both targets are still at their slots.
    have hdrawn : simulatedValue (triangleAfter swapped) = true := by
      simp only [triangleAfter, draw, Topology.primitive?, encodeDraw, drawPipeline,
        renderTargets_swapped]
      decide +kernel
    obtain ⟨hmade, hpasses⟩ := attachments_of_draw plainDevice (drawnAfter swapped)
      swapped rfl (by simp [ofType_swapped, targetAt]) (runs_simulated (triangleAfter swapped))
    obtain ⟨label, colours, depth, hpass⟩ := hmade hdrawn
    obtain ⟨_, _, _, -, -, -, -, hcolours, -⟩ := hpasses label colours depth hpass
    exact ⟨label, colours, depth, hpass, hcolours.mpr noGaps_swapped⟩
  · -- The target of the second slot comes first.
    have htargets : (drawnAfter gapped).registry.ofType .renderTarget = [targetAt 1 41] := rfl
    have hgap : ¬ NoGaps (drawnAfter gapped) := fun h =>
      absurd (h 0 1 (by decide) (by decide +kernel)) (by decide +kernel)
    obtain ⟨hmade, hpasses⟩ := attachments_of_draw plainDevice (drawnAfter gapped)
      gapped rfl (by simp [htargets, targetAt]) (runs_simulated (triangleAfter gapped))
    obtain ⟨label, colours, depth, hpass⟩ := hmade (by decide +kernel)
    obtain ⟨_, _, _, -, -, -, -, hcolours, -⟩ := hpasses label colours depth hpass
    exact ⟨label, colours, depth, hpass, mt hcolours.mp hgap⟩

/-! ## Samples -/

/-- The texture of a resource was created with a number of samples. -/
def CreatedWith (resource : Resource Handle) (samples : UInt32) : Prop :=
  ∃ texture device payload calls desc, resource.handle = .texture texture ∧
    (create device resource.desc payload).Runs calls (.ok resource.handle) ∧
    ⟨.createTexture desc, texture.object⟩ ∈ calls ∧ desc.sampleCount = samples

/-- There are textures to draw to, and all of them were created with as many samples: those of
    render targets, and the depth texture if there is one. -/
structure SampledAs (state : RenderState Handle) (samples : UInt32) : Prop where
  colour : ∀ r ∈ state.registry.ofType .renderTarget, ∀ texture, r.handle = .texture texture →
    CreatedWith r samples
  depth : ∀ r, state.registry.get? ⟨.depthStencil, 0⟩ = some r → ∀ texture,
    r.handle = .texture texture → CreatedWith r samples
  live : (∃ r ∈ state.registry.ofType .renderTarget, ∃ texture, r.handle = .texture texture) ∨
    ∃ r, state.registry.get? ⟨.depthStencil, 0⟩ = some r ∧ ∃ texture, r.handle = .texture texture

/-- The live render target with the lowest slot. -/
def IsFirstTarget (state : RenderState Handle) (resource : Resource Handle) : Prop :=
  resource ∈ state.registry.ofType .renderTarget ∧
    ∀ r ∈ state.registry.ofType .renderTarget, resource.desc.slot ≤ r.desc.slot

/-- A texture that a call creates has the samples of a description. -/
def Call.HasSamplesOf (d : ResourceDesc) : Call → Prop
  | .createTexture desc => desc.sampleCount = d.sampleCount
  | _ => True

section Samples

variable {device : Device} {state : RenderState Handle} {topology : Topology}
  {vertices instances samples : UInt32} {calls : List (Dialogue.Event Call.Answer)} {ok : Bool}
  {history : RegistryHistory Handle} {resource first : Resource Handle}

/-- To write levels creates no texture. -/
theorem asks_writeAll (d : ResourceDesc) (texture : Object .texture) (uploads : List Upload) :
    (writeAll texture uploads).Asks (Call.HasSamplesOf d) := by
  induction uploads with
  | nil => exact .done _
  | cons u uploads ih => exact .bind (.question trivial) fun _ => ih

/-- A backend creates textures with the samples of their descriptions. -/
theorem asks_create (d : ResourceDesc) (payload : List UInt8) :
    (create device d payload).Asks (Call.HasSamplesOf d) := by
  unfold create
  split
  · refine .bind (asks_inErrorScope trivial trivial ?_) fun created => ?_
    · refine .bind (.question trivial) fun object => ?_
      split
      · exact .done _
      · exact .bind (.question trivial) fun _ => .done _
    · cases created <;> exact .done _
  · -- Of all calls, only the one that creates the texture says samples.
    unfold createTexture
    split
    · exact .done _
    · split
      · exact .done _
      · refine .bind (asks_inErrorScope trivial trivial ?_) fun created => ?_
        · refine .bind (.question rfl) fun object => ?_
          exact .bind (asks_writeAll d object _) fun _ => .done _
        · cases created <;> exact .done _

/-- A texture has the samples that its description says. -/
theorem CreatedWith.sampleCount_eq (h : CreatedWith resource samples) :
    resource.desc.sampleCount = samples := by
  obtain ⟨texture, device, payload, calls, desc, -, hrun, hcreated, hsamples⟩ := h
  have hdesc : desc.sampleCount = resource.desc.sampleCount := asks_create _ _ hrun _ hcreated
  rw [← hdesc, hsamples]

/-- There is only one render target with the lowest slot. -/
theorem IsFirstTarget.unique (hmap : history.IsOrderedMap)
    (hregistry : state.registry = history.registry) (h : IsFirstTarget state resource)
    (h' : IsFirstTarget state first) : resource = first := by
  have hslot : resource.desc.slot = first.desc.slot :=
    UInt32.le_antisymm (h.2 first h'.1) (h'.2 resource h.1)
  have hget := get?_of_mem_renderTargets hmap hregistry (mem_renderTargets.mpr h.1)
  have hget' := get?_of_mem_renderTargets hmap hregistry (mem_renderTargets.mpr h'.1)
  rw [hslot, hget'] at hget
  exact (Option.some.inj hget).symm

/-- The samples of a draw are those of the first render target, or one without any. -/
theorem sampleCount_renderTargets (state : RenderState Handle) :
    (state.registry.ofType .renderTarget = [] ∧ sampleCount (renderTargets state) = 1) ∨
      ∃ r, IsFirstTarget state r ∧ sampleCount (renderTargets state) = r.desc.sampleCount := by
  cases htargets : renderTargets state with
  | nil =>
    have hperm : [].Perm (state.registry.ofType .renderTarget) :=
      htargets ▸ List.mergeSort_perm _ _
    exact .inl ⟨hperm.nil_eq.symm, rfl⟩
  | cons r targets =>
    have hsorted : (r :: targets).Pairwise fun a b => a.desc.slot ≤ b.desc.slot :=
      htargets ▸ sorted_renderTargets
    have hmem {r' : Resource Handle} :
        r' ∈ state.registry.ofType .renderTarget ↔ r' ∈ r :: targets := by
      rw [← mem_renderTargets, htargets]
    refine .inr ⟨r, ⟨hmem.mpr List.mem_cons_self, fun r' hr' => ?_⟩, rfl⟩
    obtain rfl | hr' := List.mem_cons.mp (hmem.mp hr')
    · exact UInt32.le_refl _
    · exact List.rel_of_pairwise_cons hsorted hr'

/-- If all that is drawn to has as many samples, then so does the pipeline of a draw if and only if
    the render target with the lowest slot is a texture, or a buffer that is described with as many;
    or if there is no render target and that number is one. -/
theorem sampleCount_of_draw (device : Device) (state : RenderState Handle)
    (ops : List (RegistryOp Handle))
    (hregistry : state.registry = (RegistryHistory.of ops).registry)
    (hsampled : SampledAs state samples)
    (hrun : (draw device state topology vertices instances).Runs calls ok) :
    ∀ desc pipeline, ⟨.createRenderPipeline desc, pipeline⟩ ∈ calls →
      (desc.sampleCount = samples ↔
        (state.registry.ofType .renderTarget = [] ∧ samples = 1) ∨
        ∃ r, IsFirstTarget state r ∧
          ((∃ texture, r.handle = .texture texture) ∨ r.desc.sampleCount = samples)) := by
  intro desc pipeline hcreated
  have hmap := (RegistryHistory.tabulated_of ops).isOrderedMap
  obtain ⟨-, hprepared⟩ | ⟨parts, desc', pipeline', events, hdrawn, -, honly⟩ :=
    drawnFrom_of_draw hrun
  · exact absurd (hprepared _ hcreated) id
  · obtain ⟨rfl, rfl⟩ := honly desc pipeline hcreated
    obtain ⟨_, _, _, _, rfl⟩ := hdrawn.pipeline_eq
    rw [drawPipeline]
    obtain ⟨hnone, hone⟩ | ⟨first, hfirst, hcount⟩ := sampleCount_renderTargets state
    · -- Without render targets a draw has one sample.
      rw [hone]
      constructor
      · intro hsamples
        exact .inl ⟨hnone, hsamples.symm⟩
      · rintro (⟨-, rfl⟩ | ⟨r, hr, -⟩)
        · rfl
        · rw [IsFirstTarget, hnone] at hr
          exact absurd hr.1 List.not_mem_nil
    · -- Otherwise it has those of the first one.
      rw [hcount]
      constructor
      · intro hsamples
        exact .inr ⟨first, hfirst, .inr hsamples⟩
      · rintro (⟨hnone, -⟩ | ⟨r, hr, hkind⟩)
        · rw [IsFirstTarget, hnone] at hfirst
          exact absurd hfirst.1 List.not_mem_nil
        · obtain rfl := hr.unique hmap hregistry hfirst
          obtain ⟨texture, htexture⟩ | hsamples := hkind
          · exact (hsampled.colour r hr.1 texture htexture).sampleCount_eq
          · exact hsamples

end Samples

/-- A texture of one texel with four samples. -/
def multisampled (type : ResourceType) (format : TextureFormat) : Resource Handle :=
  ⟨{ ResourceDesc.fresh type 0 with sampleCount := 4 }, .texture ⟨⟨0⟩, format, .d2, 1⟩⟩

/-- A simulated device creates a texture with the samples that it is asked for. -/
theorem createdWith_multisampled (device : Device) (type : ResourceType) (format : TextureFormat)
    (hvalue : simulatedValue (create device (multisampled type format).desc []) =
      .ok (multisampled type format).handle)
    (hcall : ⟨.createTexture (textureDescription (multisampled type format).desc format), ⟨0⟩⟩ ∈
      simulatedCalls (create device (multisampled type format).desc [])) :
    CreatedWith (multisampled type format) 4 :=
  ⟨_, device, [], _, _, rfl, hvalue ▸ runs_simulated _, hcall, rfl⟩

/-- The depth texture has four samples. -/
theorem createdWith_depth : CreatedWith (multisampled .depthStencil .depth32Float) 4 :=
  createdWith_multisampled plainDevice _ _ rfl (.tail _ (.head _))

/-- The render target has four samples. -/
theorem createdWith_colour : CreatedWith (multisampled .renderTarget .rgba32Float) 4 :=
  createdWith_multisampled plainDevice _ _ rfl (.tail _ (.head _))

/-- There is a depth texture with four samples, and nothing else to draw to. -/
def depthAlone : List (RegistryOp Handle) := [.insert (multisampled .depthStencil .depth32Float)]

/-- There is a render target with as many. -/
def depthAndColour : List (RegistryOp Handle) :=
  depthAlone ++ [.insert (multisampled .renderTarget .rgba32Float)]

/-- The samples of a pipeline that a call creates. -/
def Call.samples? : Call → Option UInt32
  | .createRenderPipeline desc => some desc.sampleCount
  | _ => none

/-- A draw to a depth texture alone does not have its samples; with a render target, it does. -/
theorem sampleCount_of_draw_depth :
    SampledAs (drawnAfter depthAlone) 4 ∧
    (∃ desc pipeline, ⟨.createRenderPipeline desc, pipeline⟩ ∈
      simulatedCalls (triangleAfter depthAlone) ∧ desc.sampleCount ≠ 4) ∧
    SampledAs (drawnAfter depthAndColour) 4 ∧
    ∃ desc pipeline, ⟨.createRenderPipeline desc, pipeline⟩ ∈
      simulatedCalls (triangleAfter depthAndColour) ∧ desc.sampleCount = 4 := by
  -- Both draws have the same depth texture, and one has a render target as well.
  have hdepthOf {ops : List (RegistryOp Handle)}
      (hget : (drawnAfter ops).registry.get? ⟨.depthStencil, 0⟩ =
        some (multisampled .depthStencil .depth32Float)) (r : Resource Handle)
      (hr : (drawnAfter ops).registry.get? ⟨.depthStencil, 0⟩ = some r) : CreatedWith r 4 :=
    Option.some.inj (hget.symm.trans hr) ▸ createdWith_depth
  have halone : SampledAs (drawnAfter depthAlone) 4 :=
    ⟨fun _ hr => absurd hr List.not_mem_nil, fun r hr _ _ => hdepthOf rfl r hr,
      .inr ⟨_, rfl, _, rfl⟩⟩
  have hboth : SampledAs (drawnAfter depthAndColour) 4 := by
    have htargets : (drawnAfter depthAndColour).registry.ofType .renderTarget =
        [multisampled .renderTarget .rgba32Float] := rfl
    refine ⟨?_, fun r hr _ _ => hdepthOf rfl r hr, .inr ⟨_, rfl, _, rfl⟩⟩
    rw [htargets]
    exact List.forall_mem_singleton.mpr fun _ _ => createdWith_colour
  -- Each draw creates one pipeline, whose samples are known.
  have hpipeline (ops : List (RegistryOp Handle)) (samples : UInt32)
      (h : (simulatedCalls (triangleAfter ops)).filterMap (·.question.samples?) = [samples]) :
      ∃ desc pipeline, ⟨.createRenderPipeline desc, pipeline⟩ ∈
        simulatedCalls (triangleAfter ops) := by
    obtain ⟨⟨question, pipeline⟩, hmem, hsamples⟩ :=
      List.mem_filterMap.mp (h ▸ List.mem_singleton_self samples)
    cases question with
    | createRenderPipeline desc => exact ⟨desc, pipeline, hmem⟩
    | _ => cases hsamples
  refine ⟨halone, ?_, hboth, ?_⟩
  · obtain ⟨desc, pipeline, hmem⟩ := hpipeline depthAlone 1 (by decide +kernel)
    refine ⟨desc, pipeline, hmem, fun hfour => ?_⟩
    have hwhen := (sampleCount_of_draw plainDevice (drawnAfter depthAlone) depthAlone
      rfl halone (runs_simulated (triangleAfter depthAlone)) desc pipeline hmem).mp hfour
    obtain ⟨-, hone⟩ | ⟨r, hfirst, -⟩ := hwhen
    · exact absurd hone (by decide)
    · exact absurd hfirst.1 List.not_mem_nil
  · obtain ⟨desc, pipeline, hmem⟩ := hpipeline depthAndColour 4 (by decide +kernel)
    refine ⟨desc, pipeline, hmem, ?_⟩
    have hfirst : IsFirstTarget (drawnAfter depthAndColour)
        (multisampled .renderTarget .rgba32Float) :=
      ⟨List.mem_singleton_self _, List.forall_mem_singleton.mpr (UInt32.le_refl _)⟩
    exact (sampleCount_of_draw plainDevice (drawnAfter depthAndColour) depthAndColour
      rfl hboth (runs_simulated (triangleAfter depthAndColour)) desc pipeline hmem).mpr
        (.inr ⟨_, hfirst, .inl ⟨_, rfl⟩⟩)

end ShaderConformance.Gpu
