import ShaderConformance.Proofs.Encodings

/-!
# Bind groups and their layouts

A draw binds what its two shaders use.  Their bindings are sorted and those that repeat an index
are dropped, so the layout has every index once.  A dispatch binds what its one shader uses as the
compiler lists it, repeated indices included.

A layout and a bind group are built one right after the other from the same list, so they pair up
either way.

## Main definitions

- `Gpu.PairsUp`: an entry of a layout and one of a bind group that belong together
- `Gpu.ListsOnce`: a layout has every index of some list once
- `Gpu.GroupCourse`: the ways in which a bind group comes about

## Main statements

- `Gpu.ascending_mergeBindings`, `Gpu.mem_mergeBindings`: bindings that are merged
- `Gpu.groupCourse_of_bindGroup`: what a bind group is built from
- `Gpu.groups_of_renders`: what a draw and a dispatch bind
-/

namespace ShaderConformance.Gpu

open Dialogue

/-! ## Merging bindings -/

section Merging

variable {bindings first second : List ShaderBinding} {index : UInt32}

/-- Only repeats are dropped. -/
theorem mem_dropRepeats {i : UInt32} :
    i ∈ index :: (dropRepeats index bindings).map ShaderBinding.binding ↔
      i ∈ index :: bindings.map ShaderBinding.binding := by
  induction bindings generalizing index with
  | nil => rfl
  | cons b bindings ih =>
    rw [dropRepeats]
    split
    · rename_i hrepeat
      rw [ih, List.map_cons, hrepeat]
      simp
    · rw [List.map_cons, List.mem_cons, ih, List.map_cons, ← List.mem_cons]

/-- What is left of sorted bindings gets strictly larger. -/
theorem ascending_dropRepeats
    (h : (index :: bindings.map ShaderBinding.binding).Pairwise (· ≤ ·)) :
    (index :: (dropRepeats index bindings).map ShaderBinding.binding).Pairwise (· < ·) := by
  induction bindings generalizing index with
  | nil => exact List.pairwise_singleton _ _
  | cons b bindings ih =>
    obtain ⟨hfirst, hmore⟩ := List.pairwise_cons.mp h
    rw [dropRepeats]
    split
    · -- A repeat is dropped, and the next one is compared with the same index.
      rename_i hrepeat
      exact ih (hrepeat ▸ hmore)
    · -- A new index is above the one before it, and so are all behind it.
      rename_i hnew
      have hless : index < b.binding :=
        UInt32.lt_of_le_of_ne (hfirst _ List.mem_cons_self) (Ne.symm hnew)
      have hbehind := ih hmore
      refine .cons (fun i hi => ?_) hbehind
      obtain rfl | hi := List.mem_cons.mp hi
      · exact hless
      · exact UInt32.lt_trans hless (List.rel_of_pairwise_cons hbehind hi)

/-- No binding is lost among the first ones of all runs. -/
theorem mem_firstOfRuns {i : UInt32} : i ∈ (firstOfRuns bindings).map ShaderBinding.binding ↔
    i ∈ bindings.map ShaderBinding.binding := by
  cases bindings with
  | nil => rfl
  | cons b bindings => exact mem_dropRepeats

/-- The first ones of sorted runs are strictly ascending. -/
theorem ascending_firstOfRuns (h : (bindings.map ShaderBinding.binding).Pairwise (· ≤ ·)) :
    ((firstOfRuns bindings).map ShaderBinding.binding).Pairwise (· < ·) := by
  cases bindings with
  | nil => exact .nil
  | cons b bindings => exact ascending_dropRepeats h

/-- The bindings of two stages have the indices of both. -/
theorem mem_mergeBindings {i : UInt32} :
    i ∈ (mergeBindings first second).map ShaderBinding.binding ↔
      i ∈ first.map ShaderBinding.binding ++ second.map ShaderBinding.binding := by
  rw [mergeBindings, mem_firstOfRuns, ← List.map_append]
  exact ((List.mergeSort_perm _ _).map _).mem_iff

/-- The bindings of two stages are in the order of their indices, and have each once. -/
theorem ascending_mergeBindings :
    ((mergeBindings first second).map ShaderBinding.binding).Pairwise (· < ·) :=
  ascending_firstOfRuns (List.pairwise_map.mpr (pairwise_mergeSort_key _ _))

end Merging

/-! ## Layouts and bind groups -/

/-- Whether an object is of the kind that a layout expects. -/
def BindingType.Takes : BindingType → Bound → Prop
  | .uniform, .buffer _ | .storage _, .buffer _ => True
  | .texture _ _ _, .view _ | .storageTexture _ _ _, .view _ => True
  | .sampler _, .sampler _ => True
  | _, _ => False

/-- An entry of a layout and an entry of a bind group that belong together: they have the same
    index, and the layout expects what the bind group has. -/
structure PairsUp (entry : LayoutEntry) (bound : GroupEntry) : Prop where
  binding_eq : entry.binding = bound.binding
  takes : entry.type.Takes bound.resource

/-- A layout has every index of a list once, and no other one. -/
structure ListsOnce (indices : List UInt32) (entries : List LayoutEntry) : Prop where
  mem_iff : ∀ index, index ∈ entries.map LayoutEntry.binding ↔ index ∈ indices
  once : (entries.map LayoutEntry.binding).Nodup

/-- Whether a call builds a bind group or its layout. -/
def Call.buildsGroup : Call → Bool
  | .createBindGroupLayout _ _ | .createBindGroup _ _ _ => true
  | _ => false

/-- The calls that build bind groups and their layouts. -/
def groupCalls (calls : List (Dialogue.Event Call.Answer)) : List (Dialogue.Event Call.Answer) :=
  calls.filter fun call => call.question.buildsGroup

/-- The ways in which a bind group comes about: there is none and the work is not done, or a layout
    is created with some entries, and right after it the one bind group for it. -/
inductive GroupCourse (P : List LayoutEntry → List GroupEntry → Prop)
    (calls : List (Dialogue.Event Call.Answer)) : Bool → Prop
  | refused (hnone : groupCalls calls = []) : GroupCourse P calls false
  | built {label label' : String} {entries : List LayoutEntry} {bound : List GroupEntry}
      {layout : Object .bindGroupLayout} {group : Object .bindGroup} (ok : Bool)
      (hcalls : groupCalls calls = [⟨.createBindGroupLayout label entries, layout⟩,
        ⟨.createBindGroup label' layout bound, group⟩]) (hgroup : P entries bound) :
      GroupCourse P calls ok

section Groups

variable {device : Device} {state : RenderState Handle} {uniforms : Object .buffer}
  {events calls : List (Dialogue.Event Call.Answer)} {found : Resolved}
  {P P' : List LayoutEntry → List GroupEntry → Prop} {S T : Type}

/-- A resource is bound as an object that its type takes. -/
theorem takes_of_bindResource {ref : ResourceRef} {kind : BindingKind}
    (h : (bindResource device state ref kind).run.Runs events (.ok found)) :
    found.type.Takes found.object := by
  obtain ⟨resource, -, hbind⟩ := runs_require_bind h
  split at hbind
  · obtain ⟨-, rfl⟩ := runs_pure_ok hbind
    trivial
  · obtain ⟨_, -, hview⟩ := runs_require_bind hbind
    obtain ⟨_, _, -, hpure⟩ := runs_call_bind hview
    obtain ⟨-, rfl⟩ := runs_pure_ok hpure
    trivial
  · obtain ⟨_, _, -, hpure⟩ := runs_call_bind hbind
    obtain ⟨-, rfl⟩ := runs_pure_ok hpure
    trivial
  · exact absurd hbind not_runs_refuse

/-- What is found for a binding is what its layout expects. -/
theorem takes_of_resolve {b : ShaderBinding}
    (h : (resolve device state uniforms b).run.Runs events (.ok found)) :
    found.type.Takes found.object := by
  unfold resolve at h
  split at h
  · exact absurd h not_runs_refuse
  · obtain ⟨-, rfl⟩ := runs_pure_ok h
    trivial
  · exact takes_of_bindResource h
  · exact takes_of_bindResource h
  · obtain ⟨_, -, h⟩ := runs_require_bind h
    obtain ⟨_, -, h⟩ := runs_require_bind h
    obtain ⟨_, _, -, hpure⟩ := runs_call_bind h
    obtain ⟨-, rfl⟩ := runs_pure_ok hpure
    trivial

/-- Bindings are resolved in their order, and each is resolved. -/
theorem takes_of_resolveAll {bindings : List ShaderBinding} {items : List (UInt32 × Resolved)}
    (h : (resolveAll device state uniforms bindings).run.Runs events (.ok items)) :
    items.map Prod.fst = bindings.map ShaderBinding.binding ∧
      ∀ item ∈ items, item.2.type.Takes item.2.object := by
  induction bindings generalizing events items with
  | nil =>
    obtain ⟨-, rfl⟩ := runs_pure_ok h
    exact ⟨rfl, List.forall_mem_nil _⟩
  | cons b bindings ih =>
    obtain ⟨_, found, _, hfound, hrest, -⟩ := runs_bind_ok h
    obtain ⟨_, more, _, hmore, hpure, -⟩ := runs_bind_ok hrest
    obtain ⟨-, rfl⟩ := runs_pure_ok hpure
    obtain ⟨hindices, htakes⟩ := ih hmore
    exact ⟨congrArg _ hindices, List.forall_mem_cons.mpr ⟨takes_of_resolve hfound, htakes⟩⟩

/-- The entries of a layout and of its bind group pair up. -/
theorem pairsUp_entries {items : List (UInt32 × Resolved)}
    (h : ∀ item ∈ items, item.2.type.Takes item.2.object) (visibility : List Stage) :
    List.Forall₂ PairsUp (layoutEntries visibility items) (groupEntries items) := by
  rw [layoutEntries, groupEntries, List.forall₂_map_left_iff, List.forall₂_map_right_iff,
    List.forall₂_same]
  exact fun item hitem => ⟨rfl, h item hitem⟩

/-- A layout has the bindings that were resolved. -/
theorem binding_layoutEntries (visibility : List Stage) (items : List (UInt32 × Resolved)) :
    (layoutEntries visibility items).map LayoutEntry.binding = items.map Prod.fst := by
  rw [layoutEntries, List.map_map]
  rfl

/-! ## Courses -/

theorem groupCalls_append (before after : List (Dialogue.Event Call.Answer)) :
    groupCalls (before ++ after) = groupCalls before ++ groupCalls after :=
  List.filter_append _ _

/-- Other calls build no bind group. -/
theorem groupCalls_eq_nil (h : ∀ event ∈ events, event.question.buildsGroup = false) :
    groupCalls events = [] :=
  List.filter_eq_nil_iff.mpr fun event hevent => by simp [h event hevent]

/-- What follows from a property of groups is true of the same groups. -/
theorem GroupCourse.imp {ok : Bool} (hP : ∀ entries bound, P entries bound → P' entries bound)
    (h : GroupCourse P calls ok) : GroupCourse P' calls ok := by
  cases h with
  | refused hnone => exact .refused hnone
  | built ok hcalls hgroup => exact .built ok hcalls (hP _ _ hgroup)

/-- A course is one of the calls that build bind groups alone. -/
theorem GroupCourse.of_groupCalls_eq {calls' : List (Dialogue.Event Call.Answer)} {ok : Bool}
    (hsame : groupCalls calls' = groupCalls calls) (h : GroupCourse P calls ok) :
    GroupCourse P calls' ok := by
  cases h with
  | refused hnone => exact .refused (hsame.trans hnone)
  | built ok hcalls hgroup => exact .built ok (hsame.trans hcalls) hgroup

/-- What comes before a bind group is built leaves both ways open. -/
theorem GroupCourse.prepare {x : Attempt S} {f : S → Attempt T} {result : Except RenderFault T}
    (hx : x.run.Asks (Call.buildsGroup · = false))
    (hf : ∀ value before, x.run.Runs before (.ok value) → ∀ events result,
      (f value).run.Runs events result → GroupCourse P events result.isOk)
    (hrun : (x >>= f).run.Runs events result) : GroupCourse P events result.isOk := by
  obtain ⟨fault, hfault, rfl⟩ | ⟨before, value, after, hbefore, hafter, rfl⟩ :=
    runs_attempt_iff.mp hrun
  · exact .refused (groupCalls_eq_nil (hx hfault))
  · refine (hf value before hbefore after result hafter).of_groupCalls_eq ?_
    rw [groupCalls_append, groupCalls_eq_nil (hx hbefore), List.nil_append]

/-- Whatever comes after a bind group is built leaves it as it is. -/
theorem GroupCourse.conclude {x : Attempt S} {f : S → Attempt T} {result : Except RenderFault T}
    (hx : ∀ events value, x.run.Runs events value → GroupCourse P events value.isOk)
    (hf : ∀ value, (f value).run.Asks (Call.buildsGroup · = false))
    (hrun : (x >>= f).run.Runs events result) : GroupCourse P events result.isOk := by
  obtain ⟨fault, hfault, rfl⟩ | ⟨before, value, after, hbefore, hafter, rfl⟩ :=
    runs_attempt_iff.mp hrun
  · exact hx events _ hfault
  · have hsame : groupCalls (before ++ after) = groupCalls before := by
      rw [groupCalls_append, groupCalls_eq_nil (hf value hafter), List.append_nil]
    cases hx before _ hbefore with
    | built _ hcalls hgroup => exact .built _ (hsame.trans hcalls) hgroup

/-- A part is no bind group. -/
theorem asks_of_isPart {x : Attempt S} (h : x.run.Asks Call.IsPart) :
    x.run.Asks (Call.buildsGroup · = false) := by
  refine h.imp fun c hc => ?_
  revert hc
  cases c <;> simp [Call.IsPart, Call.buildsGroup]

/-- A layout and a bind group for it are built from the bindings in their order. -/
theorem groupCourse_of_bindGroup {visibility : List Stage} {bindings : List ShaderBinding}
    {result : Except RenderFault Group}
    (hrun : (bindGroup device state uniforms visibility bindings).run.Runs events result) :
    GroupCourse (fun entries bound => List.Forall₂ PairsUp entries bound ∧
      entries.map LayoutEntry.binding = bindings.map ShaderBinding.binding) events result.isOk := by
  refine .prepare (asks_of_isPart (asks_resolveAll uniforms bindings)) ?_ hrun
  intro items before hbefore events result hafter
  obtain ⟨hindices, htakes⟩ := takes_of_resolveAll hbefore
  obtain ⟨layout, _, rfl, hgroup⟩ := runs_ask_iff.mp hafter
  obtain ⟨group, _, rfl, hdone⟩ := runs_ask_iff.mp hgroup
  obtain ⟨rfl, rfl⟩ := runs_done_iff.mp hdone
  exact .built _ rfl ⟨pairsUp_entries htakes visibility,
    (binding_layoutEntries visibility items).trans hindices⟩

/-! ## Draws and dispatches -/

/-- The indices that the shaders of some stages use, as often as each stage lists them. -/
def usedIndices (state : RenderState Handle) (types : List ShaderType) : List UInt32 :=
  types.flatMap fun type =>
    (state.shader type).elim [] fun shader => shader.bindings.map ShaderBinding.binding

/-- A call that builds no group is none about groups. -/
theorem asks_other {c : Call} (hc : c.buildsGroup = false) :
    (Attempt.call c).run.Asks (Call.buildsGroup · = false) :=
  asks_attempt_call hc

/-- A draw has one group, with the merged bindings of both shaders. -/
theorem groupCourse_of_encodeDraw {vertex pixel : CompiledShader} {topology : PrimitiveTopology}
    {vertices instances : UInt32} {result : Except RenderFault Unit}
    (hrun : (encodeDraw device state vertex pixel topology vertices instances).run.Runs events
      result) :
    GroupCourse (fun entries bound => List.Forall₂ PairsUp entries bound ∧
      entries.map LayoutEntry.binding =
        (mergeBindings vertex.bindings pixel.bindings).map ShaderBinding.binding)
      events result.isOk := by
  refine .prepare (asks_ofExcept _) (fun viewport _ _ _ _ hrun => ?_) hrun
  refine .prepare (asks_of_isPart (asks_loadShader vertex)) (fun _ _ _ _ _ hrun => ?_) hrun
  refine .prepare (asks_of_isPart (asks_loadShader pixel)) (fun _ _ _ _ _ hrun => ?_) hrun
  refine .prepare (asks_of_isPart (asks_createUniforms _)) (fun _ _ _ _ _ hrun => ?_) hrun
  refine .conclude (fun _ _ => groupCourse_of_bindGroup) (fun group => ?_) hrun
  refine .attempt (asks_of_isPart (asks_viewTargets _)) fun targets => ?_
  refine .attempt (asks_of_isPart asks_viewDepth) fun depth => ?_
  refine .attempt (asks_ofExcept _) fun input => ?_
  exact .attempt (asks_other rfl) fun layout => .attempt (asks_other rfl) fun pipeline =>
    asks_other rfl

/-- A dispatch has one group, with the bindings of its shader as they come. -/
theorem groupCourse_of_encodeDispatch {compute : CompiledShader} {x y z : UInt32}
    {result : Except RenderFault Unit}
    (hrun : (encodeDispatch device state compute x y z).run.Runs events result) :
    GroupCourse (fun entries bound => List.Forall₂ PairsUp entries bound ∧
      entries.map LayoutEntry.binding = compute.bindings.map ShaderBinding.binding)
      events result.isOk := by
  refine .prepare (asks_of_isPart (asks_loadShader compute)) (fun _ _ _ _ _ hrun => ?_) hrun
  refine .prepare (asks_of_isPart (asks_createUniforms _)) (fun _ _ _ _ _ hrun => ?_) hrun
  refine .conclude (fun _ _ => groupCourse_of_bindGroup) (fun group => ?_) hrun
  exact .attempt (asks_other rfl) fun layout => .attempt (asks_other rfl) fun pipeline =>
    asks_other rfl

/-- Upkeep builds no bind group. -/
theorem groupCalls_of_carryOut (h : CarryOut events calls) :
    groupCalls calls = groupCalls events := by
  refine h.filter_eq fun c hc => ?_
  revert hc
  cases c <;> simp [Call.IsUpkeep, Call.buildsGroup]

/-- What is carried out builds the bind group of the operation. -/
theorem GroupCourse.carryOut {result : Except RenderFault Unit} {ok : Bool}
    (h : GroupCourse P events result.isOk) (hcarry : CarryOut events calls)
    (hok : ok = true → result = .ok ()) : GroupCourse P calls ok := by
  have hsame := groupCalls_of_carryOut hcarry
  cases hresult : result.isOk with
  | true =>
    rw [hresult] at h
    cases h with
    | built _ hcalls hgroup => exact .built ok (hsame.trans hcalls) hgroup
  | false =>
    have hfalse : ok = false := by
      refine Bool.eq_false_iff.mpr fun hmade => ?_
      rw [hok hmade] at hresult
      cases hresult
    rw [hfalse, ← hresult]
    exact h.of_groupCalls_eq hsame

/-- A draw has every index that its shaders use once in its layout.  A dispatch has the indices in
    its layout as its shader lists them, so each once if and only if the shader does.  Either way
    the bind group is the only one, was created for the layout, and pairs up with it. -/
theorem groups_of_renders (device : Device) (state : RenderState Handle) :
    (∀ topology vertices instances calls ok,
      (draw device state topology vertices instances).Runs calls ok →
        GroupCourse (fun entries bound => List.Forall₂ PairsUp entries bound ∧
          ListsOnce (usedIndices state [.vertex, .pixel]) entries) calls ok) ∧
    ∀ x y z calls ok, (dispatch device state x y z).Runs calls ok →
      GroupCourse (fun entries bound => List.Forall₂ PairsUp entries bound ∧
        entries.map LayoutEntry.binding = usedIndices state [.compute] ∧
        (ListsOnce (usedIndices state [.compute]) entries ↔
          (usedIndices state [.compute]).Nodup)) calls ok := by
  constructor
  · intro topology vertices instances calls ok hrun
    obtain ⟨rfl, hcarry⟩ | ⟨vertex, pixel, _, events, result, hvertex, hpixel, hevents, hcarry,
      hok⟩ := runs_draw hrun
    · exact .refused (groupCalls_of_carryOut hcarry)
    · refine ((groupCourse_of_encodeDraw hevents).carryOut hcarry hok).imp ?_
      rintro entries bound ⟨hpairs, hindices⟩
      -- The bindings of both shaders are merged, so each index is listed once.
      have hused : usedIndices state [.vertex, .pixel] =
          vertex.bindings.map ShaderBinding.binding ++
            pixel.bindings.map ShaderBinding.binding := by
        simp [usedIndices, hvertex, hpixel]
      refine ⟨hpairs, fun index => ?_, ?_⟩
      · rw [hindices, mem_mergeBindings, hused]
      · rw [hindices]
        exact ascending_mergeBindings.imp UInt32.ne_of_lt
  · intro x y z calls ok hrun
    obtain ⟨rfl, hcarry⟩ | ⟨compute, events, result, hcompute, hevents, hcarry, hok⟩ :=
      runs_dispatch hrun
    · exact .refused (groupCalls_of_carryOut hcarry)
    · refine ((groupCourse_of_encodeDispatch hevents).carryOut hcarry hok).imp ?_
      rintro entries bound ⟨hpairs, hindices⟩
      -- The bindings of a single shader are listed as they are.
      have hlisted : entries.map LayoutEntry.binding = usedIndices state [.compute] := by
        simp [usedIndices, hcompute, hindices]
      refine ⟨hpairs, hlisted, fun honce => hlisted ▸ honce.once, fun hnodup => ?_⟩
      refine ⟨fun index => ?_, ?_⟩
      · rw [hlisted]
      · rwa [hlisted]

end Groups

/-- Shaders that use the uniforms and a buffer.  The pixel shader lists the uniforms twice, and so
    does the compute shader. -/
def sharing : RenderState Handle where
  shader
    | .vertex => some ⟨.vertex, .sm5_0, .wgsl [], "main", [⟨16, .storageBuffer true⟩]⟩
    | .pixel => some ⟨.pixel, .sm5_0, .wgsl [], "main",
        [⟨0, .uniformBuffer⟩, ⟨16, .storageBuffer true⟩, ⟨0, .uniformBuffer⟩]⟩
    | .compute => some ⟨.compute, .sm5_0, .wgsl [], "main",
        [⟨0, .uniformBuffer⟩, ⟨0, .uniformBuffer⟩]⟩
    | _ => none
  registry := ⟨[⟨.fresh .texture 0, .buffer ⟨⟨40⟩, 16⟩⟩], [], []⟩
  inputElements := []
  uniforms := []
  viewports := .replicate _ none
  fixed := .fresh

/-- The indices in a layout that a call creates. -/
def Call.layoutIndices? : Call → Option (List UInt32)
  | .createBindGroupLayout _ entries => some (entries.map LayoutEntry.binding)
  | _ => none

/-- The draw has each index once, the dispatch has one twice. -/
theorem groups_of_renders_sharing :
    (∃ ok, GroupCourse (fun entries bound => List.Forall₂ PairsUp entries bound ∧
        ListsOnce (usedIndices sharing [.vertex, .pixel]) entries)
      (simulatedCalls (draw plainDevice sharing .triangleList 3 1)) ok) ∧
    (simulatedCalls (draw plainDevice sharing .triangleList 3 1)).filterMap
      (·.question.layoutIndices?) = [[0, 16]] ∧
    (∃ ok, GroupCourse (fun entries bound => List.Forall₂ PairsUp entries bound ∧
        entries.map LayoutEntry.binding = usedIndices sharing [.compute] ∧
        ¬ ListsOnce (usedIndices sharing [.compute]) entries)
      (simulatedCalls (dispatch plainDevice sharing 1 1 1)) ok) ∧
    (simulatedCalls (dispatch plainDevice sharing 1 1 1)).filterMap
      (·.question.layoutIndices?) = [[0, 0]] := by
  have hrepeated : ¬ (usedIndices sharing [.compute]).Nodup := by decide +kernel
  have hmerged : mergeBindings [⟨16, .storageBuffer true⟩]
      [⟨0, .uniformBuffer⟩, ⟨16, .storageBuffer true⟩, ⟨0, .uniformBuffer⟩] =
        [⟨0, .uniformBuffer⟩, ⟨16, .storageBuffer true⟩] := by
    simp [mergeBindings, List.mergeSort, List.MergeSort.Internal.splitInTwo, firstOfRuns,
      dropRepeats]
  have hdrawn : (simulatedCalls (draw plainDevice sharing .triangleList 3 1)).filterMap
      (·.question.layoutIndices?) = [[0, 16]] := by
    simp only [draw, Topology.primitive?, sharing, encodeDraw, hmerged]
    decide +kernel
  obtain ⟨hdraws, hdispatches⟩ := groups_of_renders plainDevice sharing
  refine ⟨⟨_, hdraws .triangleList 3 1 _ _ (runs_simulated _)⟩, hdrawn,
    ⟨_, (hdispatches 1 1 1 _ _ (runs_simulated _)).imp ?_⟩, by decide +kernel⟩
  rintro entries bound ⟨hpairs, hlisted, honce⟩
  exact ⟨hpairs, hlisted, fun h => hrepeated (honce.mp h)⟩

end ShaderConformance.Gpu
