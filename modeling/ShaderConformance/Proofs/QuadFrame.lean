import ShaderConformance.Proofs.Frames
import ShaderConformance.Proofs.LiveResources
import ShaderConformance.Proofs.Reading

/-!
# What a quad leaves as it was

A quad brings a vertex shader, an input layout and a vertex buffer of its own, and a render
target where there is none.  Each of these parts may be lost, and then the quad is given up;
what was made up to there stays.  Either way nothing else of the session changes, and when the
backend is asked to draw, all parts are there.

## Main definitions

- `Registry.AgreesBut`, `Session.LeavesAlone`: what is as it was apart from resources of some
  names, and from how a draw reads its vertices
- `HoldsQuad`: the parts of a quad are there, and some events made them
- `QuadCourse`: a quad is drawn or given up

## Main statements

- `createResource_touches`: a creation changes no more than what is under its name
- `drawQuad_course`: the courses of a quad
- `frame_of_drawQuad`: what a quad changes, and what it is drawn with
-/

namespace ShaderConformance

variable {H : Type}

/-! ## Registries -/

namespace Registry

variable {names names' : List ResourceRef} {r r' r'' : Registry H}

/-- Two registries hold the same in the same order, apart from the resources of some names. -/
structure AgreesBut (names : List ResourceRef) (r r' : Registry H) : Prop where
  samplers : r'.samplers = r.samplers
  resources : r'.resources.filter (·.ref ∉ names) = r.resources.filter (·.ref ∉ names)
  failed : ∀ ref ∉ names, r'.isFailed ref = r.isFailed ref

namespace AgreesBut

theorem refl (names : List ResourceRef) (r : Registry H) : AgreesBut names r r :=
  ⟨rfl, rfl, fun _ _ => rfl⟩

theorem trans (h : AgreesBut names r r') (h' : AgreesBut names r' r'') : AgreesBut names r r'' :=
  ⟨h'.samplers.trans h.samplers, h'.resources.trans h.resources,
    fun ref href => (h'.failed ref href).trans (h.failed ref href)⟩

/-- Registries that agree agree all the more if more names are left out. -/
theorem mono (h : AgreesBut names r r') (hsub : names ⊆ names') : AgreesBut names' r r' where
  samplers := h.samplers
  resources := by
    have hfilter (resources : List (Resource H)) :
        (resources.filter (·.ref ∉ names)).filter (·.ref ∉ names') =
          resources.filter (·.ref ∉ names') := by
      rw [List.filter_filter]
      refine List.filter_congr fun resource _ => ?_
      simpa using fun hout hin => hout (hsub hin)
    rw [← hfilter, h.resources, hfilter]
  failed ref href := h.failed ref fun hin => href (hsub hin)

/-- Another name has the same resource. -/
theorem get?_eq (h : AgreesBut names r r') {ref : ResourceRef} (href : ref ∉ names) :
    r'.get? ref = r.get? ref := by
  have hfind (registry : Registry H) :
      registry.get? ref = (registry.resources.filter (·.ref ∉ names)).find? (·.ref = ref) := by
    rw [get?, List.find?_filter]
    congr 1
    funext resource
    by_cases hresource : resource.ref = ref
    · simp [hresource, href]
    · simp [hresource]
  rw [hfind, hfind, h.resources]

end AgreesBut

/-- Whether a resource failed is whether it is among those that did. -/
theorem isFailed_congr {ref : ResourceRef} (h : ref ∈ r'.failed ↔ ref ∈ r.failed) :
    r'.isFailed ref = r.isFailed ref := by
  rw [Bool.eq_iff_iff]
  simpa [isFailed] using h

/-- Only the named resource is no longer failed. -/
theorem agreesBut_clearFailed (r : Registry H) (ref : ResourceRef) :
    AgreesBut [ref] r (r.clearFailed ref) := by
  refine ⟨rfl, rfl, fun ref' href' => isFailed_congr ?_⟩
  rw [mem_failed_clearFailed]
  exact and_iff_right (by simpa using href')

/-- Only the named resource is marked as failed. -/
theorem agreesBut_markFailed (r : Registry H) (ref : ResourceRef) :
    AgreesBut [ref] r (r.markFailed ref) := by
  refine ⟨samplers_markFailed r ref, by rw [resources_markFailed],
    fun ref' href' => isFailed_congr ?_⟩
  rw [mem_failed_markFailed]
  exact or_iff_right (by simpa using href')

/-- What is replaced has the name of what replaces it. -/
theorem agreesBut_insert {resource : Resource H} {replaced : Option (Resource H)}
    (h : r.insert resource = (.ok replaced, r')) : AgreesBut [resource.ref] r r' := by
  obtain ⟨hfailed, hsamplers, hresources⟩ := insert_ok h
  refine ⟨hsamplers, ?_, fun ref _ => isFailed_congr (by rw [hfailed])⟩
  obtain ⟨old, front, back, -, hbefore, hafter, hold⟩ | ⟨-, hafter⟩ := hresources
  · simp [hbefore, hafter, hold]
  · simp [hafter]

end Registry

/-! ## Sessions -/

namespace Session

variable {names names' : List ResourceRef} {s s' s'' : Session H}

/-- A session is left as it was, apart from the resources of some names, the vertex shader, the
    input layout, and what is remembered of the last draw or dispatch. -/
structure LeavesAlone (names : List ResourceRef) (s s' : Session H) : Prop where
  scope : s'.scope = s.scope
  uniforms : s'.uniforms = s.uniforms
  viewports : s'.viewports = s.viewports
  fixed : s'.fixed = s.fixed
  stage : ∀ type, type ≠ .vertex → s'.stage type = s.stage type
  registry : s.registry.AgreesBut names s'.registry

namespace LeavesAlone

theorem refl (names : List ResourceRef) (s : Session H) : LeavesAlone names s s :=
  ⟨rfl, rfl, rfl, rfl, fun _ _ => rfl, .refl names s.registry⟩

theorem trans (h : LeavesAlone names s s') (h' : LeavesAlone names s' s'') :
    LeavesAlone names s s'' where
  scope := h'.scope.trans h.scope
  uniforms := h'.uniforms.trans h.uniforms
  viewports := h'.viewports.trans h.viewports
  fixed := h'.fixed.trans h.fixed
  stage type htype := (h'.stage type htype).trans (h.stage type htype)
  registry := h.registry.trans h'.registry

theorem mono (h : LeavesAlone names s s') (hsub : names ⊆ names') : LeavesAlone names' s s' :=
  { h with registry := h.registry.mono hsub }

/-- Only the registry changes. -/
theorem of_registry {registry : Registry H} (h : s.registry.AgreesBut names registry) :
    LeavesAlone names s { s with registry } :=
  ⟨rfl, rfl, rfl, rfl, fun _ _ => rfl, h⟩

end LeavesAlone

end Session

/-! ## Parts of a step -/

namespace Event

/-- Whether the backend is asked to draw. -/
def draws : Event H → Bool
  | ⟨⟨_, .request (.draw _ _ _ _)⟩, _⟩ => true
  | _ => false

/-- The resource that is destroyed at an event. -/
def lost? : Event H → Option (Resource H)
  | ⟨⟨_, .request (.destroy resource)⟩, _⟩ => some resource
  | _ => none

end Event

namespace Step

variable {context : RunContext} {spot : Spot} {turn : Option Turn} {s s' t u : RunState H}
  {names names' : List ResourceRef} {events rest : List (Event H)}

/-- A part of a step draws nothing, and touches no more of a session than a quad may: resources
    of some names are replaced or created, and what is destroyed lived under one of them. -/
structure Touches (names : List ResourceRef) (s : RunState H) (events : List (Event H))
    (s' : RunState H) : Prop where
  frame : s.session.LeavesAlone names s'.session
  undrawn : ∀ event ∈ events, event.draws = false
  destroyed : ∀ event ∈ events, ∀ resource, event.lost? = some resource →
    resource.ref ∈ names ∧ s.session.registry.get? resource.ref = some resource

namespace Touches

/-- Events at which nothing is drawn or destroyed. -/
theorem of_aside (hframe : s.session.LeavesAlone names s'.session)
    (haside : ∀ event ∈ events, event.draws = false ∧ event.lost? = none) :
    Touches names s events s' where
  frame := hframe
  undrawn event hevent := (haside event hevent).1
  destroyed event hevent resource hlost := by
    rw [(haside event hevent).2] at hlost
    cases hlost

theorem mono (h : Touches names s events s') (hsub : names ⊆ names') :
    Touches names' s events s' where
  frame := h.frame.mono hsub
  undrawn := h.undrawn
  destroyed event hevent resource hlost :=
    (h.destroyed event hevent resource hlost).imp_left fun hname => hsub hname

/-- Without events, what is left alone is touched in nothing. -/
theorem silent (hframe : s.session.LeavesAlone names s'.session) : Touches names s [] s' :=
  .of_aside hframe (List.forall_mem_nil _)

/-- Two parts that touch resources of different names. -/
theorem trans (h : Touches names s events t) (h' : Touches names' t rest u)
    (hother : ∀ ref ∈ names', ref ∉ names) : Touches (names ++ names') s (events ++ rest) u where
  frame := (h.frame.mono (List.subset_append_left names names')).trans
    (h'.frame.mono (List.subset_append_right names names'))
  undrawn := List.forall_mem_append.mpr ⟨h.undrawn, h'.undrawn⟩
  destroyed event hevent resource hlost := by
    obtain hevent | hevent := List.mem_append.mp hevent
    · obtain ⟨hname, hlive⟩ := h.destroyed event hevent resource hlost
      exact ⟨List.mem_append_left names' hname, hlive⟩
    · -- The first part left the name alone, so the resource lived before it.
      obtain ⟨hname, hlive⟩ := h'.destroyed event hevent resource hlost
      rw [h.frame.registry.get?_eq (hother _ hname)] at hlive
      exact ⟨List.mem_append_right names hname, hlive⟩

/-- A part after one that touches no resource. -/
theorem after (h : Touches names t rest u) (h' : Touches [] s events t) :
    Touches names s (events ++ rest) u :=
  h'.trans h fun _ _ => List.not_mem_nil

end Touches

/-- A step that is looked at outside of a turn executes no probe. -/
theorem unprobed (s : RunState H) : (none : Option Turn).any Turn.isProbe = true →
    s.session.lastRenderFailed = false :=
  fun hprobe => by cases hprobe

/-- Remarks neither draw nor lose a handle. -/
theorem aside_of_remarks (h : Chain (Remark turn) s events s') :
    ∀ event ∈ events, event.draws = false ∧ event.lost? = none := by
  refine h.forall_mem fun hremark => ?_
  cases hremark <;> exact List.forall_mem_singleton.mpr ⟨rfl, rfl⟩

/-- Reports touch nothing. -/
theorem touches_of_remarks (h : Chain (Remark turn) s events s') : Touches names s events s' := by
  refine .of_aside ?_ (aside_of_remarks h)
  rw [session_of_remarks h]
  exact .refl names s.session

/-! ## Resources -/

/-- A created resource lives under its name, and the one that it replaces is destroyed. -/
theorem touches_insert {resource : Resource H} {replaced : Option (Resource H)}
    {registry : Registry H} (hinsert : (s.session.registry.clearFailed resource.ref).insert
      resource = (.ok replaced, registry)) :
    Touches [resource.ref] s (replacedEvents t replaced) (s.withRegistry fun _ => registry) where
  frame := .of_registry ((Registry.agreesBut_clearFailed _ _).trans
    (Registry.agreesBut_insert hinsert))
  undrawn event hevent := by
    obtain ⟨old, -, rfl⟩ := List.mem_map.mp hevent
    rfl
  destroyed event hevent lost hlost := by
    obtain ⟨old, hold, rfl⟩ := List.mem_map.mp hevent
    obtain rfl : old = lost := Option.some.inj hlost
    have hlive : s.session.registry.get? resource.ref = some old :=
      (Registry.replaced_eq_get? hinsert).symm.trans (Option.mem_toList.mp hold)
    have hname : old.ref = resource.ref := by simpa using List.find?_some hlive
    exact ⟨by simp [hname], hname ▸ hlive⟩

/-- A creation, whatever comes of it, changes no more than what is under its name. -/
theorem createResource_touches {desc : ResourceDesc} {data : List UInt8} {line : Nat}
    {r : Except Fault Bool}
    (h : (createResource context desc data line : Step H Fault Bool).Runs s events r s') :
    Touches [desc.ref] s events s' := by
  have hasked (created : Except BackendError H) :
      Touches [] s [s.asked (.create desc data) created] s :=
    .of_aside (.refl [] s.session) (List.forall_mem_singleton.mpr ⟨rfl, rfl⟩)
  obtain ⟨logged, hlogged, hends⟩ := createResource_inv (unprobed s) h
  suffices hrest : ∃ created rest, events = logged ++ s.asked (.create desc data) created :: rest ∧
      Touches [desc.ref] s rest s' by
    obtain ⟨created, rest, rfl, htouches⟩ := hrest
    exact (htouches.after (hasked created)).after (touches_of_remarks hlogged)
  obtain ⟨handle, replaced, registry, hinsert, -, rfl, rfl⟩ | ⟨handle, -, -, rfl, rfl⟩ |
    ⟨error, rest, -, rfl, hreport⟩ := hends
  · exact ⟨.ok handle, _, rfl, touches_insert hinsert⟩
  · -- The registry is full, and only the mark of an earlier failure is gone.
    exact ⟨.ok handle, [], rfl, .silent (.of_registry (Registry.agreesBut_clearFailed _ _))⟩
  · refine ⟨.error error, rest, rfl, .of_aside ?_ (aside_of_remarks hreport)⟩
    rw [session_of_remarks hreport]
    exact .of_registry (Registry.agreesBut_markFailed _ _)

/-- A resource that was created lives, and nothing but the registry changed. -/
theorem createResource_makes {desc : ResourceDesc} {data : List UInt8} {line : Nat}
    (h : (createResource context desc data line : Step H Fault Bool).Runs s events (.ok true) s') :
    ∃ registry handle, s' = s.withRegistry (fun _ => registry) ∧
      registry.get? desc.ref = some ⟨desc, handle⟩ ∧ IsMadeOf events ⟨desc, handle⟩ data := by
  obtain ⟨logged, -, ⟨handle, replaced, registry, hinsert, -, rfl, hs⟩ | ⟨_, -, hr, -⟩ |
    ⟨_, _, hr, -⟩⟩ := createResource_inv (unprobed s) h
  · exact ⟨registry, handle, hs, Registry.get?_insert hinsert,
      s.asked (.create desc data) (.ok handle), by simp, rfl⟩
  -- In the other two cases it was not created.
  · cases hr
  · cases hr

/-! ## Quads -/

/-- The names under which a quad may need a target: none if there is one. -/
def targetNames (s : Session H) : List ResourceRef :=
  if (s.registry.get? quadTarget.ref).isSome then [] else [quadTarget.ref]

/-- The names of the resources that a quad brings. -/
def quadNames (s : Session H) : List ResourceRef := targetNames s ++ [quadBuffer.ref]

/-- A quad stands in a session, with a shader and a buffer that were made at some events. -/
structure HoldsQuad (events : List (Event H)) (session : Session H) : Prop where
  layout : session.inputElements = [quadElement]
  shader : ∃ (s : RunState H) (compiled : CompiledShader),
    session.stage .vertex =
      (Stage.ofSource (quadShader session)).withCompiled session.minimumModel (some compiled) ∧
    s.asked (.compile (quadShader session) .vertex session.minimumModel session.options)
      (.ok compiled) ∈ events
  /-- The vertex shader is in the language of the pixel shader. -/
  language : (quadShader session).format = .wgsl ↔
    (session.stage .pixel).source.map ShaderSource.format = some .wgsl
  buffer : ∃ handle, session.registry.get? quadBuffer.ref = some ⟨quadBuffer, handle⟩ ∧
    IsMadeOf events ⟨quadBuffer, handle⟩ quadVertices

/-- A quad is given up, or its parts are made and it is drawn with them. -/
inductive QuadCourse (s : RunState H) : List (Event H) → RunState H → Prop
  | givenUp {events : List (Event H)} {s' : RunState H}
      (hparts : Touches (quadNames s.session) s events s') : QuadCourse s events s'
  | drawn {made reports : List (Event H)} {t s' : RunState H} {ok : Bool}
      (hparts : Touches (quadNames s.session) s made t) (hholds : HoldsQuad made t.session)
      (hreports : ∀ event ∈ reports, event.draws = false ∧ event.lost? = none)
      (hsession : s'.session = { t.session with lastRenderFailed := !ok }) :
      QuadCourse s
        (made ++ t.asked (.draw t.session.renderState .triangleList 3 1) ok :: reports) s'

theorem HoldsQuad.mono {session : Session H} (h : HoldsQuad events session)
    (hsub : events ⊆ rest) : HoldsQuad rest session where
  layout := h.layout
  shader := by
    obtain ⟨s, compiled, hstage, hevent⟩ := h.shader
    exact ⟨s, compiled, hstage, hsub hevent⟩
  language := h.language
  buffer := by
    obtain ⟨handle, hlive, event, hevent, hmade⟩ := h.buffer
    exact ⟨handle, hlive, event, hsub hevent, hmade⟩

/-- The vertex shader of a quad depends on the pixel stage only. -/
theorem quadShader_congr {session session' : Session H}
    (h : session'.stage .pixel = session.stage .pixel) :
    quadShader session' = quadShader session := by
  rw [quadShader, quadShader, h]

/-- It is in the format of the pixel shader if that is the one with a language of its own. -/
theorem format_quadShader (session : Session H) : (quadShader session).format = .wgsl ↔
    (session.stage .pixel).source.map ShaderSource.format = some .wgsl := by
  rw [quadShader]
  split
  · rename_i text hsource
    rw [hsource]
    exact iff_of_true rfl rfl
  · rename_i hother
    refine iff_of_false (by decide) fun hformat => ?_
    obtain ⟨⟨text, format⟩, hsource, rfl⟩ := Option.map_eq_some_iff.mp hformat
    exact hother text hsource

section Quads

variable {r : Except Fault Bool} {line : Nat}

/-- If there is no render target, then only the one that is created is touched. -/
theorem ensureTarget_touches
    (h : (ensureTarget context line : Step H Fault Bool).Runs s events r s') :
    Touches (targetNames s.session) s events s' := by
  rw [ensureTarget, runs_session_bind_iff] at h
  cases hget : s.session.registry.get? quadTarget.ref with
  | some target =>
    -- A target that is there is left as it is.
    rw [hget] at h
    obtain ⟨rfl, -, rfl⟩ := runs_pure_iff.mp h
    exact .silent (.refl _ s'.session)
  | none =>
    rw [hget] at h
    have hnames : targetNames s.session = [quadTarget.ref] := by simp [targetNames, hget]
    rw [hnames]
    exact createResource_touches h

/-- The vertex shader of a quad is no resource. -/
theorem touches_quadEvents (s : RunState H) (result : Except CompileError CompiledShader) :
    Touches [] s (quadEvents s result) (withQuad s result) := by
  refine .of_aside ⟨rfl, rfl, rfl, rfl, fun type htype => ?_, .refl [] s.session.registry⟩ ?_
  · simp [withQuad, Session.setCompiled, Session.setSource, Session.setStage, htype]
  · simp [quadEvents, Event.draws, Event.lost?, RunState.asked, RunState.noted]

/-- To compile the shaders of a quad touches no resource. -/
theorem compileQuad_touches
    (h : (compileQuad context spot : Step H Fault Bool).Runs s events r s') :
    Touches [] s events s' := by
  obtain ⟨made, -, hcompiled⟩ := compileQuad_cases h
  cases hcompiled with
  | compiled compiled => exact touches_quadEvents s (.ok compiled)
  | failed error hcheck =>
    obtain ⟨_, -, hreports⟩ := check_inv none (unprobed _) hcheck
    exact (touches_of_remarks hreports).after (touches_quadEvents s (.error error))

/-- What was compiled for a quad and created for it is what it is drawn with. -/
theorem holdsQuad_of_parts {compiled created : List (Event H)}
    (hcompile : (compileQuad context spot : Step H Fault Bool).Runs s compiled (.ok true) t)
    (hcreate : (createResource context quadBuffer quadVertices line : Step H Fault Bool).Runs t
      created (.ok true) u)
    (hlayout : s.session.inputElements = [quadElement]) :
    HoldsQuad (compiled ++ created) u.session := by
  obtain ⟨made, hmade, hcompiled⟩ := compileQuad_cases hcompile
  cases hmade
  cases hcompiled with
  | compiled shader =>
    obtain ⟨registry, handle, rfl, hbuffer, event, hevent, hgiven⟩ := createResource_makes hcreate
    -- The creation changes the registry only, so the shader is still there.
    have hsource : quadShader ((withQuad s (.ok shader)).withRegistry fun _ => registry).session =
        quadShader s.session := quadShader_congr rfl
    exact {
      layout := hlayout
      shader := by
        rw [hsource]
        exact ⟨s, shader, rfl, List.mem_append_left _ List.mem_cons_self⟩
      language := format_quadShader _
      buffer := ⟨handle, hbuffer, event, List.mem_append_right _ hevent, hgiven⟩ }

end Quads

section Drawing

variable {r : Except Fault Unit}

/-- A quad is drawn with all its parts or given up. -/
theorem drawQuad_course (h : (drawQuad context spot : Step H Fault Unit).Runs s events r s') :
    QuadCourse s events s' := by
  rw [drawQuad] at h
  obtain ⟨prepared, t, later, htarget, hlater, rfl⟩ | ⟨_, htarget⟩ := Runs.part_inv h
  · have hother : ∀ ref ∈ [quadBuffer.ref], ref ∉ targetNames s.session := by
      rw [targetNames]
      split <;> decide
    -- What comes after the target touches the buffer at most.
    have hparts {made : List (Event H)} {v : RunState H}
        (hmade : Touches [quadBuffer.ref] t made v) :
        Touches (quadNames s.session) s (prepared ++ made) v :=
      (ensureTarget_touches htarget).trans hmade hother
    rw [runs_modifySession_bind_iff] at hlater
    have hlayout : Touches [] t [] (t.update ({ · with inputElements := [quadElement] })) :=
      .silent ⟨rfl, rfl, rfl, rfl, fun _ _ => rfl, .refl [] t.session.registry⟩
    obtain ⟨compiled, u, drawing, hcompile, hdrawing, rfl⟩ | ⟨_, hcompile⟩ := Runs.part_inv hlater
    · have hcompiled := (compileQuad_touches hcompile).after hlayout
      obtain ⟨created, v, drawn, hcreate, hdrawn, rfl⟩ | ⟨_, hcreate⟩ := Runs.part_inv hdrawing
      · rw [runs_session_bind_iff] at hdrawn
        obtain ⟨ok, reports, rfl, hreport⟩ := runs_ask_bind_iff.mp hdrawn
        have hremarks := rendered_inv none rfl hreport
        have hholds := holdsQuad_of_parts hcompile hcreate rfl
        have hcourse := QuadCourse.drawn
          (hparts ((createResource_touches hcreate).after hcompiled))
          (hholds.mono (List.subset_append_right prepared _))
          (aside_of_remarks hremarks) (session_of_remarks hremarks)
        simpa using hcourse
      · exact .givenUp (hparts ((createResource_touches hcreate).after hcompiled))
    · have hcompiled := (compileQuad_touches hcompile).after hlayout
      exact .givenUp (hparts (hcompiled.mono (List.nil_subset _)))
  · exact .givenUp ((ensureTarget_touches htarget).mono (List.subset_append_left _ _))

/-- However a quad ends, everything but its names is left alone. -/
theorem QuadCourse.leavesAlone (h : QuadCourse s events s') :
    s.session.LeavesAlone (quadNames s.session) s'.session := by
  cases h with
  | givenUp hparts => exact hparts.frame
  | drawn hparts _ _ hsession =>
    -- Whether the draw failed is the only thing that is remembered of it.
    rw [hsession]
    exact { hparts.frame with }

/-- What is destroyed is the vertex buffer that the one of the quad replaces. -/
theorem QuadCourse.lost (h : QuadCourse s events s') {event : Event H} (hevent : event ∈ events)
    {resource : Resource H} (hlost : event.lost? = some resource) :
    s.session.registry.get? quadBuffer.ref = some resource := by
  have hdestroyed : resource.ref ∈ quadNames s.session ∧
      s.session.registry.get? resource.ref = some resource := by
    cases h with
    | givenUp hparts => exact hparts.destroyed event hevent resource hlost
    | drawn hparts _ hreports _ =>
      obtain hevent | hevent := List.mem_append.mp hevent
      · exact hparts.destroyed event hevent resource hlost
      · obtain rfl | hevent := List.mem_cons.mp hevent
        · cases hlost
        · rw [(hreports event hevent).2] at hlost
          cases hlost
  obtain ⟨hname, hlive⟩ := hdestroyed
  rw [quadNames, List.mem_append, List.mem_singleton] at hname
  obtain htarget | hbuffer := hname
  · -- A target is only created where there is none.
    rw [targetNames] at htarget
    split at htarget
    · cases htarget
    · rename_i hnone
      rw [List.mem_singleton.mp htarget] at hlive
      simp [hlive] at hnone
  · rwa [hbuffer] at hlive

/-- A quad is drawn with its own parts, which are still there in the end. -/
theorem QuadCourse.holds (h : QuadCourse s events s') {event : Event H} (hevent : event ∈ events)
    (hdraws : event.draws = true) :
    event.question.deed =
        .request (.draw event.question.session.renderState .triangleList 3 1) ∧
      HoldsQuad events event.question.session ∧ HoldsQuad events s'.session := by
  cases h with
  | givenUp hparts =>
    rw [hparts.undrawn event hevent] at hdraws
    cases hdraws
  | drawn hparts hholds hreports hsession =>
    rename_i made reports t ok
    -- The draw and the reports after it leave what the quad made where it was.
    have hdrawn := hholds.mono (List.subset_append_left made
      (t.asked (.draw t.session.renderState .triangleList 3 1) ok :: reports))
    obtain hevent | hevent := List.mem_append.mp hevent
    · rw [hparts.undrawn event hevent] at hdraws
      cases hdraws
    · obtain rfl | hevent := List.mem_cons.mp hevent
      · rw [hsession]
        exact ⟨rfl, hdrawn, { hdrawn with }⟩
      · rw [(hreports event hevent).1] at hdraws
        cases hdraws

/-- However the backend and the compiler answer, the drawing of a quad leaves everything as it
    was except for the input layout, the vertex shader, vertex buffer 0, render target 0 if
    there was none, and what is remembered of the last draw.  If the backend is asked to draw,
    the session holds the input layout, the vertex shader and the vertex buffer of a quad. -/
theorem frame_of_drawQuad
    (h : (execute context spot .drawQuad : Step H Fault Unit).Runs s events r s') :
    s.session.LeavesAlone (quadNames s.session) s'.session ∧
      (∀ event ∈ events, ∀ resource, event.lost? = some resource →
        s.session.registry.get? quadBuffer.ref = some resource) ∧
      ∀ event ∈ events, event.draws = true →
        event.question.deed =
            .request (.draw event.question.session.renderState .triangleList 3 1) ∧
          HoldsQuad events event.question.session ∧ HoldsQuad events s'.session := by
  rw [execute] at h
  have hcourse := drawQuad_course h
  exact ⟨hcourse.leavesAlone, fun event hevent resource => hcourse.lost hevent,
    fun event hevent => hcourse.holds hevent⟩

/-- A line that draws a quad. -/
def plainQuad : Step Nat Fault Unit := execute ⟨"quad", .run, .plain⟩ ⟨3, false, false⟩ .drawQuad

/-- A state with a pixel shader in WGSL and a vertex buffer. -/
def bufferedState : RunState Nat := (RunState.start ⟨"quad", .run, .plain⟩).update fun session =>
  { session.setSource .pixel ⟨[], .wgsl⟩ with registry := ⟨[⟨quadBuffer, 7⟩], [], []⟩ }

/-- The vertex buffer is replaced, and the quad is drawn with a vertex shader in WGSL. -/
theorem frame_of_drawQuad_buffered :
    (∃ event ∈ journalTrace .willing none plainQuad bufferedState,
      event.lost? = some ⟨quadBuffer, 7⟩) ∧
    (∃ event ∈ journalTrace .willing none plainQuad bufferedState, event.draws = true ∧
      HoldsQuad (journalTrace .willing none plainQuad bufferedState) event.question.session) ∧
    quadShader (journalEnd .willing none plainQuad bufferedState).2.session = quadShaderWgsl ∧
    bufferedState.session.LeavesAlone [quadTarget.ref, quadBuffer.ref]
      (journalEnd .willing none plainQuad bufferedState).2.session := by
  have hdrawn : ∃ event ∈ journalTrace .willing none plainQuad bufferedState,
      event.draws = true := by decide +kernel
  obtain ⟨event, hevent, hdraws⟩ := hdrawn
  have hframe := frame_of_drawQuad (runs_journalTrace .willing none plainQuad bufferedState)
  exact ⟨by decide +kernel, ⟨event, hevent, hdraws, (hframe.2.2 event hevent hdraws).2.1⟩,
    by decide +kernel, hframe.1⟩

end Drawing

end Step

end ShaderConformance
