import Mathlib.Algebra.Ring.Nat
import ShaderConformance.Gpu.Simulated.Device
import ShaderConformance.Proofs.Encodings

/-!
# What a draw reads vertices from

The input elements of a draw name slots in any order.  Each slot that they use has a layout and
a vertex buffer, and the attributes of a slot lie behind one another in the order of the elements.

Elements are added one at a time: an element is put at the end of its slot, and leaves the other
slots alone.  So what holds of the layouts of some elements is kept by one more.

## Main definitions

- `Gpu.slotBytes`: the bytes of the elements of a slot
- `Gpu.IsLayoutOf`: a layout of the elements of a slot
- `Gpu.LinesUp`: layouts and buffers of the slots that elements use

## Main statements

- `Gpu.Slotted.concat`: what one more element keeps
- `Gpu.slotted_of_addElements`: what all elements come to
- `Gpu.linesUp_of_vertexInput`: the layouts and buffers of a draw
- `Gpu.DrawCourse.exists_input`: no draw gets further than its input
- `Gpu.linesUp_of_draw`: what is true of every draw
-/

namespace ShaderConformance.Gpu

open Dialogue

/-! ## Layouts of a slot -/

/-- The bytes of the elements of a slot. -/
def slotBytes (elements : List InputElement) (slot : UInt32) : Nat :=
  ((elements.filter (·.slot = slot)).map fun e => e.format.texelSize.toNat).sum

/-- An attribute stands for the element at its location, and begins where the earlier elements of
    the slot end. -/
def IsAttributeOf (elements : List InputElement) (slot : UInt32) (a : VertexAttribute) : Prop :=
  ∃ e, elements[a.location]? = some e ∧ e.slot = slot ∧ e.format.vertex? = some a.format ∧
    a.offset = slotBytes (elements.take a.location) slot

/-- The elements of a slot, each once, as parts of a vertex that do not overlap and leave no byte
    between them. -/
structure IsLayoutOf (traits : FormatTraits) (elements : List InputElement) (slot : UInt32)
    (layout : VertexLayout) : Prop where
  mem_iff : ∀ a, a ∈ layout.attributes ↔ IsAttributeOf elements slot a
  once : (layout.attributes.map VertexAttribute.location).Nodup
  stride_eq : layout.stride = slotBytes elements slot
  apart : layout.attributes.Pairwise fun a b => a.offset + traits.attributeBytes a.format ≤ b.offset
  within : ∀ a ∈ layout.attributes, a.offset + traits.attributeBytes a.format ≤ layout.stride
  covered : ∀ byte < layout.stride,
    ∃ a ∈ layout.attributes, a.offset ≤ byte ∧ byte < a.offset + traits.attributeBytes a.format

section Layouts

variable {traits : FormatTraits} {elements : List InputElement} {e : InputElement} {slot : UInt32}
  {layout : VertexLayout} {format : VertexFormat} {a : VertexAttribute}

/-- One more element adds its bytes to its slot. -/
theorem slotBytes_concat : slotBytes (elements ++ [e]) slot =
    slotBytes elements slot + if e.slot = slot then e.format.texelSize.toNat else 0 := by
  by_cases hslot : e.slot = slot <;> simp [slotBytes, hslot]

/-- The location of an attribute is that of an element. -/
theorem IsAttributeOf.location_lt (h : IsAttributeOf elements slot a) :
    a.location < elements.length := by
  obtain ⟨e, helement, -⟩ := h
  exact (List.getElem?_eq_some_iff.mp helement).1

/-- One more element has its own attribute, and those before it keep theirs. -/
theorem isAttributeOf_concat : IsAttributeOf (elements ++ [e]) slot a ↔
    IsAttributeOf elements slot a ∨ (e.slot = slot ∧ e.format.vertex? = some a.format ∧
      a.location = elements.length ∧ a.offset = slotBytes elements slot) := by
  unfold IsAttributeOf
  obtain hlt | heq | hgt := Nat.lt_trichotomy a.location elements.length
  · rw [List.getElem?_append_left hlt, List.take_append_of_le_length (Nat.le_of_lt hlt)]
    simp [Nat.ne_of_lt hlt]
  · simp [heq, eq_comm]
  · have hnone : elements[a.location]? = none := List.getElem?_eq_none (Nat.le_of_lt hgt)
    have hnone' : (elements ++ [e])[a.location]? = none :=
      List.getElem?_eq_none (by simpa using Nat.succ_le_of_lt hgt)
    simp [hnone, hnone', Nat.ne_of_gt hgt]

/-- A slot without elements has an empty layout. -/
theorem isLayoutOf_empty (hunused : ∀ e ∈ elements, e.slot ≠ slot) :
    IsLayoutOf traits elements slot ⟨0, []⟩ where
  mem_iff a := by
    refine ⟨nofun, ?_⟩
    rintro ⟨e, helement, hslot, -⟩
    exact absurd hslot (hunused e (List.mem_of_getElem? helement))
  once := List.nodup_nil
  stride_eq := by
    have hfilter : elements.filter (·.slot = slot) = [] := by simpa using hunused
    rw [slotBytes, hfilter]
    rfl
  apart := .nil
  within := nofun
  covered := nofun

/-- An element of another slot leaves a layout as it is. -/
theorem IsLayoutOf.skip (h : IsLayoutOf traits elements slot layout) (hslot : e.slot ≠ slot) :
    IsLayoutOf traits (elements ++ [e]) slot layout where
  mem_iff a := by
    rw [h.mem_iff, isAttributeOf_concat]
    simp [hslot]
  once := h.once
  stride_eq := by rw [h.stride_eq, slotBytes_concat, if_neg hslot, Nat.add_zero]
  apart := h.apart
  within := h.within
  covered := h.covered

/-- An element of the slot is put at the end of its layout. -/
theorem IsLayoutOf.push (h : IsLayoutOf traits elements slot layout) (hslot : e.slot = slot)
    (hformat : e.format.vertex? = some format) :
    IsLayoutOf traits (elements ++ [e]) slot (layout.push traits format elements.length) where
  mem_iff a := by
    have hlast : a = ⟨format, layout.stride, elements.length⟩ ↔
        format = a.format ∧ a.location = elements.length ∧ a.offset = layout.stride := by
      cases a
      simp [eq_comm, and_comm]
    rw [isAttributeOf_concat, ← h.mem_iff, ← h.stride_eq, hformat]
    simp [VertexLayout.push, hslot, hlast]
  once := by
    have hfresh : ∀ a ∈ layout.attributes, a.location ≠ elements.length := fun a ha =>
      Nat.ne_of_lt ((h.mem_iff a).mp ha).location_lt
    simp only [VertexLayout.push, List.map_append, List.map_cons, List.map_nil]
    refine List.nodup_append.mpr ⟨h.once, List.pairwise_singleton _ _, ?_⟩
    simpa using hfresh
  stride_eq := by
    rw [VertexLayout.push, h.stride_eq, slotBytes_concat, if_pos hslot,
      traits.attributeBytes_of_vertex? hformat]
  apart := by
    -- The last attribute begins where the layout ended.
    simp only [VertexLayout.push, List.pairwise_append, List.pairwise_singleton, true_and]
    exact ⟨h.apart, fun a ha b hb => by
      obtain rfl := List.mem_singleton.mp hb
      exact h.within a ha⟩
  within a ha := by
    obtain ha | ha := List.mem_append.mp ha
    · exact Nat.le_trans (h.within a ha) (Nat.le_add_right _ _)
    · obtain rfl := List.mem_singleton.mp ha
      exact Nat.le_refl _
  covered byte hbyte := by
    by_cases hold : byte < layout.stride
    · obtain ⟨a, ha, hcovers⟩ := h.covered byte hold
      exact ⟨a, List.mem_append_left _ ha, hcovers⟩
    · exact ⟨_, List.mem_append_right _ List.mem_cons_self, Nat.not_lt.mp hold, hbyte⟩

end Layouts

/-! ## Adding elements -/

/-- The slots that elements use in ascending order, each with a layout of its elements. -/
structure Slotted (traits : FormatTraits) (elements : List InputElement)
    (slots : List SlotLayout) : Prop where
  ascending : (slots.map SlotLayout.slot).Pairwise (· < ·)
  used : ∀ slot, slot ∈ slots.map SlotLayout.slot ↔ ∃ e ∈ elements, e.slot = slot
  layout : ∀ s ∈ slots, IsLayoutOf traits elements s.slot s.layout
  formats : ∀ e ∈ elements, e.format.vertex?.isSome

section Adding

variable {traits : FormatTraits} {elements more : List InputElement} {e : InputElement}
  {slot slot' : UInt32}
  {format : VertexFormat} {location : Nat} {s : SlotLayout} {slots slots' : List SlotLayout}

/-- One more attribute adds its slot. -/
theorem mem_slots_addAttribute :
    slot' ∈ (addAttribute traits slot format location slots).map SlotLayout.slot ↔
      slot' = slot ∨ slot' ∈ slots.map SlotLayout.slot := by
  induction slots with
  | nil => simp [addAttribute, SlotLayout.single]
  | cons s slots ih =>
    rw [addAttribute]
    split
    · simp [SlotLayout.single]
    · split
      · rename_i heq
        simp [heq]
      · rw [List.map_cons, List.mem_cons, ih, List.map_cons, List.mem_cons, or_left_comm]

/-- The slots stay in ascending order. -/
theorem ascending_addAttribute (h : (slots.map SlotLayout.slot).Pairwise (· < ·)) :
    ((addAttribute traits slot format location slots).map SlotLayout.slot).Pairwise (· < ·) := by
  induction slots with
  | nil => exact List.pairwise_singleton _ _
  | cons s slots ih =>
    obtain ⟨hfirst, hmore⟩ := List.pairwise_cons.mp h
    rw [addAttribute]
    split
    · -- The new slot comes before the first one, and so before all.
      rename_i hless
      refine .cons (fun slot' hslot' => ?_) h
      obtain rfl | hmem := List.mem_cons.mp hslot'
      · exact hless
      · exact UInt32.lt_trans hless (hfirst slot' hmem)
    · rename_i hnless
      split
      · exact h
      · rename_i hne
        refine .cons (fun slot' hslot' => ?_) (ih hmore)
        obtain rfl | hmem := mem_slots_addAttribute.mp hslot'
        · exact UInt32.lt_of_le_of_ne (UInt32.not_lt.mp hnless) (Ne.symm hne)
        · exact hfirst slot' hmem

/-- A slot is left alone, or it is the one that gets an attribute at its end. -/
theorem mem_addAttribute (h : (slots.map SlotLayout.slot).Pairwise (· < ·))
    (hs : s ∈ addAttribute traits slot format location slots) :
    (s ∈ slots ∧ s.slot ≠ slot) ∨ (s.slot = slot ∧ ∃ layout,
      s.layout = layout.push traits format location ∧
        (⟨slot, layout⟩ ∈ slots ∨ (layout = ⟨0, []⟩ ∧ slot ∉ slots.map SlotLayout.slot))) := by
  induction slots with
  | nil =>
    obtain rfl := List.mem_singleton.mp hs
    exact .inr ⟨rfl, _, rfl, .inr ⟨rfl, List.not_mem_nil⟩⟩
  | cons t slots ih =>
    obtain ⟨hfirst, hmore⟩ := List.pairwise_cons.mp h
    rw [addAttribute] at hs
    split at hs
    · -- The slot was not there: it comes before the first one.
      rename_i hless
      have hbehind : ∀ slot' ∈ (t :: slots).map SlotLayout.slot, slot < slot' := by
        intro slot' hslot'
        obtain rfl | hmem := List.mem_cons.mp hslot'
        · exact hless
        · exact UInt32.lt_trans hless (hfirst slot' hmem)
      obtain rfl | hs := List.mem_cons.mp hs
      · exact .inr ⟨rfl, _, rfl, .inr ⟨rfl, fun hmem => UInt32.lt_irrefl _ (hbehind slot hmem)⟩⟩
      · exact .inl ⟨hs, (UInt32.ne_of_lt (hbehind _ (List.mem_map_of_mem hs))).symm⟩
    · split at hs
      · rename_i heq
        obtain rfl | hs := List.mem_cons.mp hs
        · exact .inr ⟨heq.symm, t.layout, rfl, .inl (heq ▸ List.mem_cons_self)⟩
        · refine .inl ⟨List.mem_cons_of_mem _ hs, heq ▸ ?_⟩
          exact (UInt32.ne_of_lt (hfirst _ (List.mem_map_of_mem hs))).symm
      · rename_i hne
        obtain rfl | hs := List.mem_cons.mp hs
        · exact .inl ⟨List.mem_cons_self, Ne.symm hne⟩
        · obtain ⟨hs, hslot⟩ | ⟨hslot, layout, hlayout, hold⟩ := ih hmore hs
          · exact .inl ⟨List.mem_cons_of_mem _ hs, hslot⟩
          · refine .inr ⟨hslot, layout, hlayout, ?_⟩
            obtain hmem | ⟨hempty, hfresh⟩ := hold
            · exact .inl (List.mem_cons_of_mem _ hmem)
            · exact .inr ⟨hempty, List.not_mem_cons_of_ne_of_not_mem hne hfresh⟩

/-- One more element is put at the end of its slot. -/
theorem Slotted.concat (h : Slotted traits elements slots)
    (hformat : e.format.vertex? = some format) : Slotted traits (elements ++ [e])
      (addAttribute traits e.slot format elements.length slots) where
  ascending := ascending_addAttribute h.ascending
  used slot := by
    rw [mem_slots_addAttribute, h.used]
    simp [or_comm, eq_comm]
  layout s hs := by
    obtain ⟨hs, hslot⟩ | ⟨hslot, layout, hlayout, hold⟩ := mem_addAttribute h.ascending hs
    · exact (h.layout s hs).skip hslot.symm
    · -- The layout was that of the earlier elements, or there were none of the slot.
      have hbefore : IsLayoutOf traits elements e.slot layout := by
        obtain hmem | ⟨rfl, hfresh⟩ := hold
        · exact h.layout _ hmem
        · exact isLayoutOf_empty fun e' he' heq => hfresh ((h.used _).mpr ⟨e', he', heq⟩)
      rw [hslot, hlayout]
      exact hbefore.push rfl hformat
  formats e' he' := by
    obtain he' | he' := List.mem_append.mp he'
    · exact h.formats e' he'
    · rw [List.mem_singleton.mp he', hformat]
      rfl

theorem slotted_nil : Slotted traits [] [] where
  ascending := .nil
  used _ := by simp
  layout := nofun
  formats := nofun

/-- Adding elements gives the slots of all of them. -/
theorem slotted_of_addElements (h : Slotted traits elements slots)
    (hadd : addElements traits slots elements.length more = .ok slots') :
    Slotted traits (elements ++ more) slots' := by
  -- The location of the next element is the number of those before it.
  induction more generalizing elements slots with
  | nil =>
    obtain rfl := Except.ok.inj hadd
    rwa [List.append_nil]
  | cons e more ih =>
    rw [addElements] at hadd
    split at hadd
    · cases hadd
    · rename_i format hformat
      rw [List.append_cons]
      apply ih (h.concat hformat)
      rwa [List.length_append]

/-- Every element has its attribute in the layout of its slot, and in no other one. -/
theorem Slotted.placed (h : Slotted traits elements slots) {i : Nat}
    (helement : elements[i]? = some e) :
    ∃ k : Nat, (slots.map SlotLayout.slot)[k]? = some e.slot ∧
      ∀ (j : Nat) (layout : VertexLayout), (slots.map SlotLayout.layout)[j]? = some layout →
        (i ∈ layout.attributes.map VertexAttribute.location ↔ j = k) := by
  have hmem : e ∈ elements := List.mem_of_getElem? helement
  -- Slots ascend, so each has one place.
  have hdistinct : (slots.map SlotLayout.slot).Nodup := h.ascending.imp UInt32.ne_of_lt
  obtain ⟨k, hk⟩ := List.mem_iff_getElem?.mp ((h.used e.slot).mpr ⟨e, hmem, rfl⟩)
  refine ⟨k, hk, fun j layout hj => ?_⟩
  obtain ⟨s, hs, rfl⟩ := Option.map_eq_some_iff.mp (List.getElem?_map .. ▸ hj)
  have hslot : (slots.map SlotLayout.slot)[j]? = some s.slot := by
    rw [List.getElem?_map, hs]
    rfl
  have hlayout := h.layout s (List.mem_of_getElem? hs)
  constructor
  · intro hi
    obtain ⟨a, ha, rfl⟩ := List.mem_map.mp hi
    obtain ⟨e', helement', heq, -⟩ := (hlayout.mem_iff a).mp ha
    obtain rfl := Option.some.inj (helement.symm.trans helement')
    exact (List.getElem?_inj (List.getElem?_eq_some_iff.mp hslot).1 hdistinct).mp
      (hslot.trans (heq ▸ hk.symm))
  · rintro rfl
    obtain heq := Option.some.inj (hslot.symm.trans hk)
    obtain ⟨format, hformat⟩ := Option.isSome_iff_exists.mp (h.formats e hmem)
    -- The element is an attribute of the layout of its own slot, at its index.
    have ha := (hlayout.mem_iff ⟨format, slotBytes (elements.take i) s.slot, i⟩).mpr
      ⟨e, helement, heq.symm, hformat, rfl⟩
    exact List.mem_map_of_mem ha

/-- The layouts of a draw are those of its elements. -/
theorem slotted_of_slotLayouts (h : slotLayouts traits elements = .ok slots) :
    Slotted traits elements slots :=
  slotted_of_addElements slotted_nil h

end Adding

/-! ## The input of a draw -/

/-- A buffer that lives as the vertex buffer of a slot. -/
def IsVertexBuffer (state : RenderState Handle) (slot : UInt32) (object : Object .buffer) : Prop :=
  ∃ resource b, state.registry.get? ⟨.vertexBuffer, slot⟩ = some resource ∧
    resource.handle = .buffer b ∧ b.object = object

/-- Layouts and buffers of the slots that the elements of a draw use, in the same order. -/
structure LinesUp (traits : FormatTraits) (state : RenderState Handle) (slots : List UInt32)
    (layouts : List VertexLayout) (buffers : List (Object .buffer)) : Prop where
  ascending : slots.Pairwise (· < ·)
  used : ∀ slot, slot ∈ slots ↔ ∃ e ∈ state.inputElements, e.slot = slot
  formats : ∀ e ∈ state.inputElements, e.format.vertex?.isSome
  layout : List.Forall₂ (IsLayoutOf traits state.inputElements) slots layouts
  buffer : List.Forall₂ (IsVertexBuffer state) slots buffers
  /-- The attribute of an element is in the layout of its slot, and in no other one. -/
  placed : ∀ (i : Nat) (e : InputElement), state.inputElements[i]? = some e → ∃ k : Nat,
    slots[k]? = some e.slot ∧ ∀ (j : Nat) (layout : VertexLayout), layouts[j]? = some layout →
      (i ∈ layout.attributes.map VertexAttribute.location ↔ j = k)

section Input

variable {traits : FormatTraits} {state : RenderState Handle} {input : VertexInput} {slot : UInt32}
  {object : Object .buffer}

/-- A vertex buffer is found if one lives in the slot. -/
theorem vertexBuffer_eq_ok_iff :
    vertexBuffer state slot = .ok object ↔ IsVertexBuffer state slot object := by
  unfold vertexBuffer IsVertexBuffer
  cases hlive : state.registry.get? ⟨.vertexBuffer, slot⟩ with
  | none => simp
  | some resource => cases hhandle : resource.handle <;> simp [hhandle]

/-- In an input there is a live buffer for the slot of every element. -/
theorem LinesUp.exists_buffer {slots : List UInt32} {layouts : List VertexLayout}
    {buffers : List (Object .buffer)} {e : InputElement}
    (h : LinesUp traits state slots layouts buffers) (he : e ∈ state.inputElements) :
    ∃ object, IsVertexBuffer state e.slot object := by
  obtain ⟨k, hk, hslot⟩ := List.mem_iff_getElem.mp ((h.used e.slot).mpr ⟨e, he, rfl⟩)
  obtain ⟨hlength, hbuffers⟩ := List.forall₂_iff_get.mp h.buffer
  have hbuffer := hbuffers k hk (hlength ▸ hk)
  rw [List.get_eq_getElem, hslot] at hbuffer
  exact ⟨_, hbuffer⟩

/-- If a draw has an input, then it is one layout and one buffer for each slot in use. -/
theorem linesUp_of_vertexInput (h : vertexInput traits state = .ok input) :
    ∃ slots, LinesUp traits state slots input.layouts input.buffers := by
  obtain ⟨slots, hslots, h⟩ := bind_eq_ok_iff.mp h
  obtain ⟨buffers, hbuffers, h⟩ := bind_eq_ok_iff.mp h
  obtain rfl := Except.ok.inj h
  have hslotted := slotted_of_slotLayouts hslots
  refine ⟨slots.map SlotLayout.slot, hslotted.ascending, hslotted.used, hslotted.formats, ?_, ?_,
    fun i e => hslotted.placed⟩
  · rw [List.forall₂_map_left_iff, List.forall₂_map_right_iff, List.forall₂_same]
    exact hslotted.layout
  · rw [List.forall₂_map_left_iff]
    exact (mapM_eq_ok_iff.mp hbuffers).imp fun _ _ => vertexBuffer_eq_ok_iff.mp

end Input

/-! ## Draws -/

/-- The vertex buffer that a command binds, with its place. -/
def Command.bound? : Command → Option (Nat × Object .buffer)
  | .setVertexBuffer k object => some (k, object)
  | _ => none

/-- The vertex buffers that commands bind, with their places. -/
def boundBuffers (commands : List Command) : List (Nat × Object .buffer) :=
  commands.filterMap Command.bound?

section Draws

variable {device : Device} {state : RenderState Handle} {vertices instances : UInt32}
  {events : List (Dialogue.Event Call.Answer)} {result : Except RenderFault Unit}

theorem boundBuffers_append (first more : List Command) :
    boundBuffers (first ++ more) = boundBuffers first ++ boundBuffers more :=
  List.filterMap_append

/-- Buffers are bound to places that are numbered from a first one on. -/
theorem boundBuffers_bindVertexBuffers (first : Nat) (buffers : List (Object .buffer)) :
    boundBuffers (bindVertexBuffers first buffers) =
      buffers.mapIdx fun k object => (first + k, object) := by
  induction buffers generalizing first with
  | nil => rfl
  | cons object buffers ih =>
    rw [bindVertexBuffers, boundBuffers, List.filterMap_cons, List.mapIdx_cons]
    refine congrArg _ ((ih (first + 1)).trans ?_)
    simp only [Nat.add_assoc, Nat.add_comm 1]

/-- The commands of a draw bind the buffers of its input. -/
theorem boundBuffers_drawCommands (traits : FormatTraits) (parts : DrawParts)
    (pipeline : Object .renderPipeline) :
    boundBuffers (drawCommands traits parts pipeline vertices instances) =
      parts.input.buffers.mapIdx Prod.mk := by
  have hviewport : boundBuffers (parts.viewport.map Command.setViewport).toList = [] := by
    cases parts.viewport <;> rfl
  have hbound := boundBuffers_bindVertexBuffers 0 parts.input.buffers
  simp only [Nat.zero_add] at hbound
  simp only [drawCommands, boundBuffers_append, hviewport, hbound, List.append_nil]
  exact List.append_nil _

variable {what : String} {encode : Attempt Unit} {calls : List (Dialogue.Event Call.Answer)}
  {ok : Bool}

/-- Without an input nothing is drawn. -/
theorem DrawCourse.exists_fault (h : DrawCourse device state events result)
    (hinput : ∀ input, vertexInput device.formats state ≠ .ok input) :
    (∃ fault, result = .error fault) ∧ ∀ event ∈ events, event.question.IsPreparation := by
  obtain hrefused | ⟨parts, _, _, hdrawn, -⟩ := h.refused_or_drawnFrom
  · exact hrefused
  · exact absurd hdrawn.input (hinput _)

/-- A draw with a pipeline has an input, and has handed over its commands. -/
theorem DrawCourse.exists_input {desc : RenderPipelineDescription}
    {pipeline : Object .renderPipeline} (h : DrawCourse device state events result)
    (hpipeline : ⟨.createRenderPipeline desc, pipeline⟩ ∈ events) :
    ∃ input, vertexInput device.formats state = .ok input ∧ desc.buffers = input.layouts ∧
      boundBuffers (submitted events) = input.buffers.mapIdx Prod.mk := by
  obtain ⟨-, hprepared⟩ | ⟨parts, desc', pipeline', hdrawn, -, honly⟩ := h.refused_or_drawnFrom
  · exact absurd (hprepared _ hpipeline) id
  · obtain ⟨rfl, rfl⟩ := honly desc pipeline hpipeline
    obtain ⟨_, _, _, _, rfl⟩ := hdrawn.pipeline_eq
    obtain ⟨_, _, hsubmitted⟩ := hdrawn.submitted_eq
    rw [hsubmitted]
    exact ⟨parts.input, hdrawn.input, rfl, boundBuffers_drawCommands _ _ _⟩

/-- A draw that is refused is not made, and nothing is handed over. -/
theorem eq_false_of_render
    (hencode : ∀ events result, encode.run.Runs events result → (∃ fault, result = .error fault) ∧
      ∀ event ∈ events, event.question.IsPreparation)
    (hrun : (render what encode).Runs calls ok) :
    ok = false ∧ ∀ call ∈ calls, call.question.IsPreparation := by
  obtain ⟨events, result, hevents, hcarry, hok⟩ := runs_render hrun
  obtain ⟨⟨fault, rfl⟩, hprepared⟩ := hencode events result hevents
  refine ⟨Bool.eq_false_iff.mpr fun hmade => ?_, hcarry.isPreparation hprepared⟩
  cases hok hmade

/-- A draw that is only logged is not made. -/
theorem eq_false_of_report {entry : LogEntry}
    (hrun : (Program.call (.report entry) >>= fun _ => return false).Runs calls ok) :
    ok = false ∧ ∀ call ∈ calls, call.question.IsPreparation := by
  obtain ⟨hfalse, hcarry⟩ := runs_report hrun
  exact ⟨hfalse, hcarry.isPreparation (List.forall_mem_nil _)⟩

/-- Whenever a draw gets to its pipeline, the layouts of the pipeline and the buffers that are
    bound belong to the same slots in the same order, and the layouts are those of the elements.
    If an element has no format for vertices, or its slot no live buffer, then the draw is not
    made and nothing is handed over. -/
theorem linesUp_of_draw (device : Device) (state : RenderState Handle)
    (vertices instances : UInt32) :
    (∀ vertex pixel topology events result desc pipeline,
      (encodeDraw device state vertex pixel topology vertices instances).run.Runs events result →
      ⟨.createRenderPipeline desc, pipeline⟩ ∈ events →
        ∃ slots buffers, LinesUp device.formats state slots desc.buffers buffers ∧
          boundBuffers (submitted events) = buffers.mapIdx Prod.mk) ∧
    ((∃ e ∈ state.inputElements,
        e.format.vertex? = none ∨ ∀ object, ¬ IsVertexBuffer state e.slot object) →
      ∀ topology calls ok, (draw device state topology vertices instances).Runs calls ok →
        ok = false ∧ ∀ call ∈ calls, call.question.IsPreparation) := by
  constructor
  · intro vertex pixel topology events result desc pipeline hrun hpipeline
    obtain ⟨input, hinput, hlayouts, hbuffers⟩ := (drawCourse_of_runs hrun).exists_input hpipeline
    obtain ⟨slots, hlines⟩ := linesUp_of_vertexInput hinput
    rw [hlayouts]
    exact ⟨slots, input.buffers, hlines, hbuffers⟩
  · rintro ⟨e, he, hmissing⟩ topology calls ok hrun
    -- An element without a format or a buffer leaves the draw without an input.
    have hinput : ∀ input, vertexInput device.formats state ≠ .ok input := by
      intro input hsome
      obtain ⟨slots, hlines⟩ := linesUp_of_vertexInput hsome
      obtain hformat | hbuffer := hmissing
      · have hsome := hlines.formats e he
        rw [hformat] at hsome
        cases hsome
      · obtain ⟨object, hlive⟩ := hlines.exists_buffer he
        exact hbuffer object hlive
    unfold draw at hrun
    split at hrun
    · exact eq_false_of_report hrun
    · split at hrun
      · refine eq_false_of_render (fun events result hencode => ?_) hrun
        exact (drawCourse_of_runs hencode).exists_fault hinput
      · exact eq_false_of_report hrun

end Draws

/-- A draw whose elements go back and forth between two slots. -/
def interleaved : RenderState Handle where
  shader
    | .vertex => some ⟨.vertex, .sm5_0, .wgsl [], "main", []⟩
    | .pixel => some ⟨.pixel, .sm5_0, .wgsl [], "main", []⟩
    | _ => none
  registry := ⟨[⟨.fresh .vertexBuffer 0, .buffer ⟨⟨40⟩, 16⟩⟩,
    ⟨.fresh .vertexBuffer 1, .buffer ⟨⟨41⟩, 16⟩⟩], [], []⟩
  inputElements := [⟨"position", 0, 1, .r32G32Float, 8⟩, ⟨"weight", 0, 0, .r32Float, 4⟩,
    ⟨"color", 0, 1, .r8G8B8A8Unorm, 4⟩]
  uniforms := []
  viewports := .replicate _ none
  fixed := .fresh

/-- The same draw with another slot, which has no buffer. -/
def unbuffered : RenderState Handle :=
  { interleaved with
    inputElements := interleaved.inputElements ++ [⟨"normal", 0, 2, .r32Float, 4⟩] }

/-- What a simulated device is asked for the first one. -/
def interleavedCalls : List (Dialogue.Event Call.Answer) :=
  (encodeDraw plainDevice interleaved ⟨.vertex, .sm5_0, .wgsl [], "main", []⟩
    ⟨.pixel, .sm5_0, .wgsl [], "main", []⟩ .triangleList 3 1).run.transcript
      (Simulated.answer
        ⟨none, false, fun _ => false, fun _ => false, fun _ => false, fun _ => false⟩) .fresh

/-- The vertex layouts of a pipeline that a call creates. -/
def Call.layouts? : Call → Option (List VertexLayout)
  | .createRenderPipeline desc => some desc.buffers
  | _ => none

/-- The layouts are in the order of the slots, and the locations in that of the elements. -/
theorem linesUp_of_draw_interleaved :
    (∃ desc pipeline slots buffers, ⟨.createRenderPipeline desc, pipeline⟩ ∈ interleavedCalls ∧
      LinesUp plainDevice.formats interleaved slots desc.buffers buffers ∧
      desc.buffers = [⟨4, [⟨.float32, 0, 1⟩]⟩, ⟨12, [⟨.float32x2, 0, 0⟩, ⟨.unorm8x4, 8, 2⟩]⟩] ∧
      boundBuffers (submitted interleavedCalls) = buffers.mapIdx Prod.mk ∧
      boundBuffers (submitted interleavedCalls) = [(0, ⟨40⟩), (1, ⟨41⟩)]) ∧
    (∃ e ∈ unbuffered.inputElements, ∀ object, ¬ IsVertexBuffer unbuffered e.slot object) ∧
    ∀ topology calls ok, (draw plainDevice unbuffered topology 3 1).Runs calls ok →
      ok = false ∧ ∀ call ∈ calls, call.question.IsPreparation := by
  -- Slot two is named by an element, and nothing lives there.
  have hmissing : ∃ e ∈ unbuffered.inputElements, ∀ object,
      ¬ IsVertexBuffer unbuffered e.slot object := by
    refine ⟨⟨"normal", 0, 2, .r32Float, 4⟩, by decide, ?_⟩
    rintro object ⟨resource, b, hlive, -⟩
    cases hlive
  refine ⟨?_, hmissing, ?_⟩
  · -- The draw makes one pipeline, with these layouts.
    have hcreated : interleavedCalls.filterMap (·.question.layouts?) =
        [[⟨4, [⟨.float32, 0, 1⟩]⟩, ⟨12, [⟨.float32x2, 0, 0⟩, ⟨.unorm8x4, 8, 2⟩]⟩]] := by
      decide +kernel
    have hbound : boundBuffers (submitted interleavedCalls) = [(0, ⟨40⟩), (1, ⟨41⟩)] := by
      decide +kernel
    obtain ⟨⟨question, pipeline⟩, hmem, hlayouts⟩ :=
      List.mem_filterMap.mp (hcreated ▸ List.mem_cons_self)
    cases question with
    | createRenderPipeline desc =>
      obtain ⟨slots, buffers, hlines, hbuffers⟩ :=
        (linesUp_of_draw plainDevice interleaved 3 1).1 _ _ _ _ _ desc pipeline
          (runs_transcript _ _ _) hmem
      exact ⟨desc, pipeline, slots, buffers, hmem, hlines, Option.some.inj hlayouts, hbuffers,
        hbound⟩
    | _ => cases hlayouts
  · refine (linesUp_of_draw plainDevice unbuffered 3 1).2 ?_
    obtain ⟨e, he, hnone⟩ := hmissing
    exact ⟨e, he, .inr hnone⟩

end ShaderConformance.Gpu
