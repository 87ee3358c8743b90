import ShaderConformance.Gpu.Simulated.Device
import ShaderConformance.Proofs.Programs
import ShaderConformance.Proofs.Results

/-!
# How draws and dispatches go

A draw or a dispatch is made in an error scope, and what it is made of is created first.  Until
then it may be refused; once a draw has a pipeline nothing is left to go wrong before its
commands are handed over.

## Main definitions

- `Gpu.Call.IsPart`, `Gpu.Call.IsPreparation`, `Gpu.Call.IsUpkeep`: kinds of calls
- `Gpu.CarryOut`: calls that carry out an operation
- `Gpu.DrawCourse`: the ways in which a draw goes

## Main statements

- `Gpu.runs_draw`, `Gpu.runs_dispatch`: a draw or dispatch carries out what it encodes
- `Gpu.DrawCourse.prepare`: what is done before a draw has its parts leaves both ways open
- `Gpu.drawCourse_of_runs`: every draw goes in one of these ways
-/

namespace ShaderConformance.Gpu

open Dialogue

/-- What is sorted by a key is in the order of the keys. -/
theorem pairwise_mergeSort_key {T : Type} (key : T → UInt32) (items : List T) :
    (items.mergeSort fun a b => key a ≤ key b).Pairwise fun a b => key a ≤ key b := by
  have htrans (a b c : T) : decide (key a ≤ key b) = true → decide (key b ≤ key c) = true →
      decide (key a ≤ key c) = true := by
    simpa using UInt32.le_trans
  have htotal (a b : T) : (decide (key a ≤ key b) || decide (key b ≤ key a)) = true := by
    simpa using UInt32.le_total (key a) (key b)
  exact (List.pairwise_mergeSort htrans htotal items).imp of_decide_eq_true

/-! ## Kinds of calls -/

/-- A call that creates something that is bound, drawn to or run. -/
def Call.IsPart : Call → Prop
  | .createShaderModule _ _ | .createBufferWith _ _ _ | .createView _ _ | .createSampler _ _ => True
  | _ => False

/-- A call that neither creates a pipeline for draws nor hands over work. -/
def Call.IsPreparation : Call → Prop
  | .createRenderPipeline _ | .submit _ _ => False
  | _ => True

/-- A call that finds out or tells how an operation went. -/
def Call.IsUpkeep : Call → Prop
  | .pushErrorScope | .popErrorScope | .poll | .report _ => True
  | _ => False

/-- To make a part prepares. -/
theorem Call.IsPart.isPreparation {c : Call} (h : c.IsPart) : c.IsPreparation := by
  revert h
  cases c <;> simp [IsPart, IsPreparation]

/-- Upkeep of a device prepares nothing else. -/
theorem Call.IsUpkeep.isPreparation {c : Call} (h : c.IsUpkeep) : c.IsPreparation := by
  revert h
  cases c <;> simp [IsUpkeep, IsPreparation]

/-- What is prepared is not handed over yet. -/
theorem Call.IsPreparation.commands_eq_nil {c : Call} (h : c.IsPreparation) : c.commands = [] := by
  revert h
  cases c <;> simp [IsPreparation, commands]

/-- What only prepares hands over no commands. -/
theorem submitted_of_preparation {events : List (Dialogue.Event Call.Answer)}
    (h : ∀ event ∈ events, event.question.IsPreparation) : submitted events = [] :=
  List.flatMap_eq_nil_iff.mpr fun event hevent => (h event hevent).commands_eq_nil

/-! ## Carrying out an operation -/

/-- Calls that carry out those of an operation, with nothing but upkeep before and after them. -/
def CarryOut (events calls : List (Dialogue.Event Call.Answer)) : Prop :=
  ∃ before after, calls = before ++ events ++ after ∧
    (∀ call ∈ before, call.question.IsUpkeep) ∧ ∀ call ∈ after, call.question.IsUpkeep

section CarryingOut

variable {events calls : List (Dialogue.Event Call.Answer)} {what : String}
  {encode : Attempt Unit} {ok : Bool}

/-- Any calls of another kind are those of the operation. -/
theorem CarryOut.filter_eq (h : CarryOut events calls) {p : Call → Bool}
    (hp : ∀ c, c.IsUpkeep → p c = false) :
    calls.filter (fun call => p call.question) = events.filter fun call => p call.question := by
  obtain ⟨before, after, rfl, hbefore, hafter⟩ := h
  have hnone {around : List (Dialogue.Event Call.Answer)}
      (haround : ∀ call ∈ around, call.question.IsUpkeep) :
      around.filter (fun call => p call.question) = [] := by
    refine List.filter_eq_nil_iff.mpr fun call hcall => ?_
    rw [hp _ (haround call hcall)]
    exact Bool.false_ne_true
  rw [List.filter_append, List.filter_append, hnone hbefore, hnone hafter, List.nil_append,
    List.append_nil]

/-- But for upkeep, the calls are those of what is carried out. -/
theorem CarryOut.mem_iff (h : CarryOut events calls) {call : Dialogue.Event Call.Answer}
    (hcall : ¬ call.question.IsUpkeep) : call ∈ calls ↔ call ∈ events := by
  obtain ⟨before, after, rfl, hbefore, hafter⟩ := h
  have hbefore : call ∉ before := fun hmem => hcall (hbefore call hmem)
  have hafter : call ∉ after := fun hmem => hcall (hafter call hmem)
  simp [hbefore, hafter]

/-- What is handed over are the commands of the operation. -/
theorem CarryOut.submitted_eq (h : CarryOut events calls) : submitted calls = submitted events := by
  obtain ⟨before, after, rfl, hbefore, hafter⟩ := h
  rw [submitted_append, submitted_append,
    submitted_of_preparation fun call hcall => (hbefore call hcall).isPreparation,
    submitted_of_preparation fun call hcall => (hafter call hcall).isPreparation,
    List.nil_append, List.append_nil]

/-- Upkeep keeps to the calls of the operation. -/
theorem CarryOut.isPreparation (h : CarryOut events calls)
    (hevents : ∀ event ∈ events, event.question.IsPreparation) :
    ∀ call ∈ calls, call.question.IsPreparation := by
  intro call hcall
  by_cases hupkeep : call.question.IsUpkeep
  · exact hupkeep.isPreparation
  · exact hevents call ((h.mem_iff hupkeep).mp hcall)

/-- What is made is encoded without a fault, between upkeep. -/
theorem runs_render (hrun : (render what encode).Runs calls ok) :
    ∃ events result, encode.run.Runs events result ∧ CarryOut events calls ∧
      (ok = true → result = .ok ()) := by
  obtain ⟨scope, made, after, hscope, hafter, rfl⟩ := runs_bind_iff.mp hrun
  obtain ⟨events, result, error?, hevents, rfl, rfl⟩ := runs_inErrorScope hscope
  -- Whatever is reported afterwards is upkeep of the device.
  have hreported (reported : Except String Bool) : (finish what reported).Asks Call.IsUpkeep :=
    asks_finish trivial (fun _ => trivial) what reported
  -- A render that is reported as failed was not made.
  have hfailed {error : String} (hfinish : (finish what (.error error)).Runs after ok) :
      ok = false := by
    obtain ⟨_, _, rfl, hdone⟩ := runs_ask_iff.mp hfinish
    exact (runs_done_iff.mp hdone).2
  have hcarry (hupkeep : ∀ call ∈ after, call.question.IsUpkeep) :
      CarryOut events (⟨.pushErrorScope, ()⟩ :: (events ++ [⟨.popErrorScope, error?⟩]) ++ after) :=
    ⟨[⟨.pushErrorScope, ()⟩], ⟨.popErrorScope, error?⟩ :: after, by simp,
      List.forall_mem_singleton.mpr trivial, List.forall_mem_cons.mpr ⟨trivial, hupkeep⟩⟩
  refine ⟨events, result, hevents, ?_⟩
  -- An error that the scope has caught counts, whatever was encoded.
  cases error? with
  | some error =>
    refine ⟨hcarry (hreported (.error error) hafter), fun hok => ?_⟩
    rw [hfailed hafter] at hok
    cases hok
  | none =>
    cases result with
    | ok => exact ⟨hcarry (asks_wait trivial (fun _ => trivial) hafter), fun _ => rfl⟩
    | error fault =>
      refine ⟨hcarry (hreported (.error fault.message) hafter), fun hok => ?_⟩
      rw [hfailed hafter] at hok
      cases hok

/-- What is only reported is not made. -/
theorem runs_report {entry : LogEntry}
    (hrun : (Program.call (.report entry) >>= fun _ => return false).Runs calls ok) :
    ok = false ∧ CarryOut [] calls := by
  obtain ⟨_, _, rfl, hdone⟩ := runs_question_bind_iff.mp hrun
  obtain ⟨rfl, rfl⟩ := runs_done_iff.mp hdone
  exact ⟨rfl, [⟨.report entry, ()⟩], [], rfl, List.forall_mem_singleton.mpr trivial,
    List.forall_mem_nil _⟩

variable {device : Device} {state : RenderState Handle}

/-- A draw carries out what is encoded for its shaders, unless something is missing for it. -/
theorem runs_draw {topology : Topology} {vertices instances : UInt32}
    (hrun : (draw device state topology vertices instances).Runs calls ok) :
    (ok = false ∧ CarryOut [] calls) ∨ ∃ vertex pixel primitive events result,
      state.shader .vertex = some vertex ∧ state.shader .pixel = some pixel ∧
      (encodeDraw device state vertex pixel primitive vertices instances).run.Runs events result ∧
      CarryOut events calls ∧ (ok = true → result = .ok ()) := by
  unfold draw at hrun
  split at hrun
  · exact .inl (runs_report hrun)
  · rename_i primitive _
    split at hrun
    · rename_i vertex pixel hvertex hpixel
      obtain ⟨events, result, hevents, hcarry, hok⟩ := runs_render hrun
      exact .inr ⟨vertex, pixel, primitive, events, result, hvertex, hpixel, hevents, hcarry, hok⟩
    · exact .inl (runs_report hrun)

/-- A dispatch carries out what is encoded for its shader, unless there is none. -/
theorem runs_dispatch {x y z : UInt32} (hrun : (dispatch device state x y z).Runs calls ok) :
    (ok = false ∧ CarryOut [] calls) ∨ ∃ compute events result,
      state.shader .compute = some compute ∧
      (encodeDispatch device state compute x y z).run.Runs events result ∧
      CarryOut events calls ∧ (ok = true → result = .ok ()) := by
  unfold dispatch at hrun
  split at hrun
  · rename_i compute hcompute
    obtain ⟨events, result, hevents, hcarry, hok⟩ := runs_render hrun
    exact .inr ⟨compute, events, result, hcompute, hevents, hcarry, hok⟩
  · exact .inl (runs_report hrun)

end CarryingOut

/-- A simulated device without faults. -/
def simulatedDevice : (c : Call) → Simulated.State → c.Answer × Simulated.State :=
  Simulated.answer ⟨none, false, fun _ => false, fun _ => false, fun _ => false, fun _ => false⟩

/-- What a simulated device is asked by a program. -/
def simulatedCalls {T : Type} (program : Program T) : List (Dialogue.Event Call.Answer) :=
  program.transcript simulatedDevice .fresh

/-- What a program comes to on a simulated device. -/
def simulatedValue {T : Type} (program : Program T) : T :=
  (program.answer simulatedDevice .fresh).1

/-- A program runs on a simulated device. -/
theorem runs_simulated {T : Type} (program : Program T) :
    program.Runs (simulatedCalls program) (simulatedValue program) :=
  runs_transcript _ _ _

/-! ## Parts -/

section Parts

variable {device : Device} {state : RenderState Handle}

/-- A shader is loaded with calls that make parts. -/
theorem asks_loadShader (shader : CompiledShader) : (loadShader shader).run.Asks Call.IsPart :=
  .attempt (asks_require _) fun _ => .attempt (asks_attempt_call trivial) fun _ => .done _

/-- Uniforms are created with calls that make parts. -/
theorem asks_createUniforms (uniforms : List UInt8) :
    (createUniforms uniforms).run.Asks Call.IsPart :=
  asks_attempt_call trivial

/-- A resource is bound with calls that make parts. -/
theorem asks_bindResource (ref : ResourceRef) (kind : BindingKind) :
    (bindResource device state ref kind).run.Asks Call.IsPart := by
  refine .attempt (asks_require _) fun resource => ?_
  split
  · exact .done _
  · exact .attempt (asks_require _) fun _ => .attempt (asks_attempt_call trivial) fun _ => .done _
  · exact .attempt (asks_attempt_call trivial) fun _ => .done _
  · exact .done _

/-- A binding is resolved with calls that make parts. -/
theorem asks_resolve (uniforms : Object .buffer) (b : ShaderBinding) :
    (resolve device state uniforms b).run.Asks Call.IsPart := by
  unfold resolve
  split
  · exact .done _
  · exact .done _
  · exact asks_bindResource _ _
  · exact asks_bindResource _ _
  · exact .attempt (asks_require _) fun _ => .attempt (asks_require _) fun _ =>
      .attempt (asks_attempt_call trivial) fun _ => .done _

/-- All bindings are resolved with calls that make parts. -/
theorem asks_resolveAll (uniforms : Object .buffer) (bindings : List ShaderBinding) :
    (resolveAll device state uniforms bindings).run.Asks Call.IsPart := by
  induction bindings with
  | nil => exact .done _
  | cons b bindings ih =>
    exact .attempt (asks_resolve uniforms b) fun _ => .attempt ih fun _ => .done _

/-- A bind group is made before anything is handed over. -/
theorem asks_bindGroup (uniforms : Object .buffer) (visibility : List Stage)
    (bindings : List ShaderBinding) :
    (bindGroup device state uniforms visibility bindings).run.Asks Call.IsPreparation :=
  .attempt ((asks_resolveAll uniforms bindings).imp fun _ => Call.IsPart.isPreparation) fun _ =>
    .attempt (asks_attempt_call trivial) fun _ => .attempt (asks_attempt_call trivial) fun _ =>
      .done _

/-- A target is viewed with calls that make parts. -/
theorem asks_viewTarget (texture : Texture) : (viewTarget texture).run.Asks Call.IsPart :=
  .attempt (asks_attempt_call trivial) fun _ => .done _

/-- All targets are viewed with calls that make parts. -/
theorem asks_viewTargets (textures : List Texture) :
    (viewTargets textures).run.Asks Call.IsPart := by
  induction textures with
  | nil => exact .done _
  | cons texture textures ih =>
    exact .attempt (asks_viewTarget texture) fun _ => .attempt ih fun _ => .done _

/-- The depth texture is viewed with calls that make parts. -/
theorem asks_viewDepth : (viewDepth state).run.Asks Call.IsPart := by
  unfold viewDepth
  split
  · exact .attempt (asks_viewTarget _) fun _ => .done _
  · exact .done _

end Parts

/-! ## Draws -/

/-- What is drawn to is a view of a whole texture that some calls created. -/
def IsTargetOf (calls : List (Dialogue.Event Call.Answer)) (texture : Texture) (target : Target) :
    Prop :=
  ⟨.createView texture.object .whole, target.view⟩ ∈ calls ∧ target.format = texture.format

theorem IsTargetOf.mono {calls calls' : List (Dialogue.Event Call.Answer)} {texture : Texture}
    {target : Target} (h : IsTargetOf calls texture target) (hcalls : calls ⊆ calls') :
    IsTargetOf calls' texture target :=
  ⟨hcalls h.1, h.2⟩

/-- The ways in which a draw goes.  It is refused before it has a pipeline, or it has all its
    parts, a pipeline for them, and hands over its commands. -/
inductive DrawCourse (device : Device) (state : RenderState Handle) :
    List (Dialogue.Event Call.Answer) → Except RenderFault Unit → Prop
  | refused {events : List (Dialogue.Event Call.Answer)} (fault : RenderFault)
      (hbefore : ∀ event ∈ events, event.question.IsPreparation) :
      DrawCourse device state events (.error fault)
  | drawn (before : List (Dialogue.Event Call.Answer)) {parts : DrawParts}
      {layout : Object .pipelineLayout} {vertex pixel : StageFunction}
      {topology : PrimitiveTopology} {pipeline : Object .renderPipeline}
      {vertices instances : UInt32}
      (hbefore : ∀ event ∈ before, event.question.IsPreparation)
      (htargets : List.Forall₂ (IsTargetOf before) ((renderTargets state).filterMap textureOf?)
        parts.targets)
      (hinput : vertexInput device.formats state = .ok parts.input) :
      DrawCourse device state
        (before ++ [⟨.createRenderPipeline (drawPipeline state parts layout vertex pixel topology),
          pipeline⟩, ⟨.submit "Draw Encoder"
            (drawCommands device.formats parts pipeline vertices instances), ()⟩])
        (.ok ())

/-- A draw of some parts: it has a pipeline for them, and hands over commands that use both. -/
structure DrawnFrom (device : Device) (state : RenderState Handle) (parts : DrawParts)
    (desc : RenderPipelineDescription) (pipeline : Object .renderPipeline)
    (events : List (Dialogue.Event Call.Answer)) : Prop where
  created : ⟨.createRenderPipeline desc, pipeline⟩ ∈ events
  pipeline_eq : ∃ layout vertex pixel topology,
    desc = drawPipeline state parts layout vertex pixel topology
  submitted_eq : ∃ vertices instances,
    submitted events = drawCommands device.formats parts pipeline vertices instances
  targets : List.Forall₂ (IsTargetOf events) ((renderTargets state).filterMap textureOf?)
    parts.targets
  input : vertexInput device.formats state = .ok parts.input

section Draws

variable {device : Device} {state : RenderState Handle} {vertex pixel : CompiledShader}
  {topology : PrimitiveTopology} {vertices instances : UInt32}
  {earlier events : List (Dialogue.Event Call.Answer)} {result : Except RenderFault Unit} {S : Type}

/-- Textures are viewed one after the other. -/
theorem targets_of_viewTargets {textures : List Texture} {targets : List Target}
    (hrun : (viewTargets textures).run.Runs events (.ok targets)) :
    List.Forall₂ (IsTargetOf events) textures targets := by
  induction textures generalizing events targets with
  | nil =>
    obtain ⟨-, rfl⟩ := runs_pure_ok hrun
    exact .nil
  | cons texture textures ih =>
    obtain ⟨view, rest, rfl, hrest⟩ := runs_call_bind hrun
    obtain ⟨viewed, more, after, hviewed, hafter, rfl⟩ := runs_bind_ok hrest
    obtain ⟨rfl, rfl⟩ := runs_pure_ok hafter
    refine .cons ⟨List.mem_cons_self, rfl⟩ ((ih hviewed).imp fun _ _ htarget => ?_)
    exact htarget.mono fun _ hcall => List.mem_cons_of_mem _ (List.mem_append_left _ hcall)

/-- What is done before a draw has its parts leaves both ways open. -/
theorem DrawCourse.prepare {x : Attempt S} {f : S → Attempt Unit}
    (hearlier : ∀ event ∈ earlier, event.question.IsPreparation)
    (hx : x.run.Asks Call.IsPreparation)
    (hf : ∀ value before, x.run.Runs before (.ok value) →
      (∀ event ∈ earlier ++ before, event.question.IsPreparation) → ∀ events result,
        (f value).run.Runs events result →
          DrawCourse device state (earlier ++ before ++ events) result)
    (hrun : (x >>= f).run.Runs events result) :
    DrawCourse device state (earlier ++ events) result := by
  have hboth {before : List (Dialogue.Event Call.Answer)}
      (hbefore : ∀ event ∈ before, event.question.IsPreparation) :
      ∀ event ∈ earlier ++ before, event.question.IsPreparation := fun event hevent =>
    (List.mem_append.mp hevent).elim (hearlier event) (hbefore event)
  obtain ⟨fault, hfault, rfl⟩ | ⟨before, value, after, hbefore, hafter, rfl⟩ :=
    runs_attempt_iff.mp hrun
  · exact .refused fault (hboth (hx hfault))
  · rw [← List.append_assoc]
    exact hf value before hbefore (hboth (hx hbefore)) after result hafter

/-- No draw has a pipeline without its parts. -/
theorem drawCourse_of_runs
    (hrun : (encodeDraw device state vertex pixel topology vertices instances).run.Runs events
      result) : DrawCourse device state events result := by
  have hparts {S : Type} {x : Attempt S} (hx : x.run.Asks Call.IsPart) :
      x.run.Asks Call.IsPreparation := hx.imp fun _ => Call.IsPart.isPreparation
  rw [← List.nil_append events]
  refine .prepare (List.forall_mem_nil _) (asks_ofExcept _)
    (fun viewport _ _ hearlier _ _ hrun => ?_) hrun
  refine .prepare hearlier (hparts (asks_loadShader vertex))
    (fun vertexFunction _ _ hearlier _ _ hrun => ?_) hrun
  refine .prepare hearlier (hparts (asks_loadShader pixel))
    (fun pixelFunction _ _ hearlier _ _ hrun => ?_) hrun
  refine .prepare hearlier (hparts (asks_createUniforms _))
    (fun uniforms _ _ hearlier _ _ hrun => ?_) hrun
  refine .prepare hearlier (asks_bindGroup _ _ _) (fun group _ _ hearlier _ _ hrun => ?_) hrun
  refine .prepare hearlier (hparts (asks_viewTargets _))
    (fun targets views hviews hearlier _ _ hrun => ?_) hrun
  refine .prepare hearlier (hparts asks_viewDepth) (fun depth _ _ hearlier _ _ hrun => ?_) hrun
  refine .prepare hearlier (asks_ofExcept _) (fun input _ hinput hearlier _ _ hrun => ?_) hrun
  -- Three calls are left: of the layout, of the pipeline, and of the work itself.
  obtain ⟨layout, _, rfl, hpipeline⟩ := runs_ask_iff.mp hrun
  obtain ⟨pipeline, _, rfl, hsubmit⟩ := runs_ask_iff.mp hpipeline
  obtain ⟨_, _, rfl, hdone⟩ := runs_ask_iff.mp hsubmit
  obtain ⟨rfl, rfl⟩ := runs_done_iff.mp hdone
  rw [List.append_cons]
  refine .drawn _ (fun event hevent => ?_) ?_ (runs_ofExcept hinput)
  · obtain hevent | hevent := List.mem_append.mp hevent
    · exact hearlier event hevent
    · rw [List.mem_singleton.mp hevent]
      trivial
  · refine (targets_of_viewTargets hviews).imp fun _ _ htarget => htarget.mono ?_
    intro call hcall
    simp [hcall]

/-- A draw is refused before it has a pipeline, or it is made of some parts. -/
theorem DrawCourse.refused_or_drawnFrom (h : DrawCourse device state events result) :
    ((∃ fault, result = .error fault) ∧ ∀ event ∈ events, event.question.IsPreparation) ∨
      ∃ parts desc pipeline, DrawnFrom device state parts desc pipeline events ∧ result = .ok () ∧
        ∀ desc' pipeline', ⟨.createRenderPipeline desc', pipeline'⟩ ∈ events →
          desc' = desc ∧ pipeline' = pipeline := by
  cases h with
  | refused fault hbefore => exact .inl ⟨⟨fault, rfl⟩, hbefore⟩
  | @drawn before parts layout vertex pixel topology pipeline vertices instances hbefore htargets
      hinput =>
    refine .inr ⟨parts, _, pipeline, ⟨?_, ⟨layout, vertex, pixel, topology, rfl⟩,
      ⟨vertices, instances, ?_⟩, ?_, hinput⟩, rfl, fun desc' pipeline' hcreated => ?_⟩
    · exact List.mem_append_right _ List.mem_cons_self
    · -- Nothing was handed over before.
      rw [submitted_append, submitted_of_preparation hbefore]
      simp [submitted, Call.commands]
    · exact htargets.imp fun _ _ htarget => htarget.mono (List.subset_append_left _ _)
    · -- There is one pipeline only.
      obtain hmem | hmem := List.mem_append.mp hcreated
      · exact absurd (hbefore _ hmem) id
      · obtain heq | hmem := List.mem_cons.mp hmem
        · cases heq
          exact ⟨rfl, rfl⟩
        · cases List.mem_singleton.mp hmem

/-- What a draw hands over or creates a pipeline for is made of some parts. -/
theorem drawnFrom_of_draw {drawn : Topology}
    {calls : List (Dialogue.Event Call.Answer)} {ok : Bool}
    (hrun : (draw device state drawn vertices instances).Runs calls ok) :
    (ok = false ∧ ∀ call ∈ calls, call.question.IsPreparation) ∨
      ∃ parts desc pipeline events, DrawnFrom device state parts desc pipeline events ∧
        CarryOut events calls ∧ ∀ desc' pipeline',
          ⟨.createRenderPipeline desc', pipeline'⟩ ∈ calls →
            desc' = desc ∧ pipeline' = pipeline := by
  obtain ⟨hfalse, hcarry⟩ | ⟨vertex, pixel, _, events, result, -, -, hevents, hcarry, hok⟩ :=
    runs_draw hrun
  · exact .inl ⟨hfalse, hcarry.isPreparation (List.forall_mem_nil _)⟩
  · obtain ⟨⟨fault, rfl⟩, hprepared⟩ | ⟨parts, desc, pipeline, hdrawn, -, honly⟩ :=
      (drawCourse_of_runs hevents).refused_or_drawnFrom
    · refine .inl ⟨Bool.eq_false_iff.mpr fun hmade => ?_, hcarry.isPreparation hprepared⟩
      cases hok hmade
    · exact .inr ⟨parts, desc, pipeline, events, hdrawn, hcarry, fun desc' pipeline' hcreated =>
        honly desc' pipeline' ((hcarry.mem_iff id).mp hcreated)⟩

end Draws

end ShaderConformance.Gpu
