import ShaderConformance.Proofs.FileActs

/-!
# Live resources were made by the backend

A resource lives only after the backend gave a handle for its description.  So what holds of
all that a run creates, and of the handles that a backend gives for it, holds of what lives.

## Main definitions

- `Event.live`: what lives when something happens
- `Event.made?`, `IsMadeOf`: what a backend makes at an event, or at one of some events
- `LiveMade`: some events made all that lives

## Main statements

- `liveMade_act`: the acts of a run keep that up
- `isMade_of_runs`: whatever lives in a run was made in it
-/

namespace ShaderConformance

variable {H : Type}

namespace Event

/-- What lives when something happens. -/
def live (event : Event H) : List (Resource H) := event.question.session.registry.resources

/-- What a backend makes at an event, with its initial contents. -/
def made? : Event H → Option (Resource H × List UInt8)
  | ⟨⟨_, .request (.create desc data)⟩, .ok handle⟩ => some (⟨desc, handle⟩, data)
  | _ => none

end Event

/-- A resource was made of some initial contents, at one of some events. -/
def IsMadeOf (events : List (Event H)) (resource : Resource H) (data : List UInt8) : Prop :=
  ∃ event ∈ events, event.made? = some (resource, data)

/-- A resource was made at one of some events. -/
def IsMade (events : List (Event H)) (resource : Resource H) : Prop :=
  ∃ data, IsMadeOf events resource data

/-- Some events made all that lived when they happened, and all that lives after them. -/
structure LiveMade (history : List (Event H)) (session : Session H) : Prop where
  events : ∀ event ∈ history, ∀ resource ∈ event.live, IsMade history resource
  session : ∀ resource ∈ session.registry.resources, IsMade history resource

/-- What was made stays made. -/
theorem IsMade.append {history : List (Event H)} {resource : Resource H}
    (h : IsMade history resource) (events : List (Event H)) :
    IsMade (history ++ events) resource := by
  obtain ⟨data, event, hevent, hmade⟩ := h
  exact ⟨data, event, List.mem_append_left _ hevent, hmade⟩

namespace LiveMade

variable {history events : List (Event H)} {s s' : Session H}

/-- Only what lives matters. -/
theorem of_eq (h : LiveMade history s) (hlive : s'.registry.resources = s.registry.resources) :
    LiveMade history s' :=
  ⟨h.events, hlive ▸ h.session⟩

/-- Events at which nothing else lives. -/
theorem append (h : LiveMade history s)
    (hevents : ∀ event ∈ events, ∀ resource ∈ event.live, resource ∈ s.registry.resources) :
    LiveMade (history ++ events) s := by
  refine ⟨fun event hevent resource hlive => ?_, fun resource hlive =>
    (h.session resource hlive).append events⟩
  obtain hevent | hevent := List.mem_append.mp hevent
  · exact (h.events event hevent resource hlive).append events
  · exact (h.session resource (hevents event hevent resource hlive)).append events

/-- An event at which nothing else lives. -/
theorem snoc (h : LiveMade history s) {event : Event H}
    (hevent : event.live = s.registry.resources) : LiveMade (history ++ [event]) s :=
  h.append <| List.forall_mem_singleton.mpr fun _ hlive => hevent ▸ hlive

/-- A resource that is made, and then lives besides others or in the place of one. -/
theorem insert {r : RunState H} (h : LiveMade history r.session) {desc : ResourceDesc} {handle : H}
    {replaced : Option (Resource H)} {registry : Registry H} (data : List UInt8)
    (hinsert : (r.session.registry.clearFailed desc.ref).insert ⟨desc, handle⟩ =
      (.ok replaced, registry)) :
    LiveMade (history ++ [r.asked (.create desc data) (.ok handle)])
      (r.withRegistry fun _ => registry).session := by
  have hmade : IsMade (history ++ [r.asked (.create desc data) (.ok handle)]) ⟨desc, handle⟩ :=
    ⟨data, _, List.mem_append_right _ (List.mem_singleton_self _), rfl⟩
  have hkept : LiveMade (history ++ [r.asked (.create desc data) (.ok handle)]) r.session :=
    h.snoc rfl
  refine ⟨hkept.events, fun resource hlive => ?_⟩
  rw [RunState.registry_withRegistry] at hlive
  obtain ⟨-, -, ⟨old, front, back, -, hbefore, hafter, -⟩ | ⟨-, hafter⟩⟩ :=
    Registry.insert_ok hinsert
  · rw [Registry.resources_clearFailed] at hbefore
    rw [hafter] at hlive
    -- What stands before or behind the new resource lived already.
    obtain hfront | hrest := List.mem_append.mp hlive
    · exact hkept.session resource (hbefore ▸ List.mem_append_left _ hfront)
    · obtain rfl | hback := List.mem_cons.mp hrest
      · exact hmade
      · exact hkept.session resource
          (hbefore ▸ List.mem_append_right _ (List.mem_cons_of_mem _ hback))
  · rw [hafter, Registry.resources_clearFailed] at hlive
    obtain hold | hnew := List.mem_append.mp hlive
    · exact hkept.session resource hold
    · exact List.mem_singleton.mp hnew ▸ hmade

end LiveMade

/-! ## Runs -/

section Runs

variable {context : RunContext} {turn : Option Turn} {events : List (Event H)}

/-- A remark makes and destroys nothing. -/
theorem liveMade_remark :
    Keeps (fun history s => LiveMade history s.session) (Remark (H := H) turn) := by
  intro s events t h history hmade
  cases h with
  | log | check | skip => exact hmade.snoc rfl

/-- A move registers what it made. -/
theorem liveMade_move :
    Keeps (fun history s => LiveMade history s.session) (Move (H := H) context turn) := by
  intro s events t h history hmade
  cases h with
  | remark h => exact liveMade_remark h history hmade
  | settings | require | halt | resume =>
    rw [List.append_nil]
    exact hmade.of_eq rfl
  | sampler sampler =>
    rw [List.append_nil]
    exact hmade.of_eq (Registry.resources_setSampler _ sampler)
  | store | variant | preprocessed => exact (hmade.snoc rfl).of_eq rfl
  | notCreated => exact (hmade.snoc rfl).of_eq (Registry.resources_markFailed _ _)
  | quad =>
    rw [List.append_cons]
    exact ((hmade.snoc rfl).snoc rfl).of_eq rfl
  | @refuse t reports header text line hturn haccepts hreport reason =>
    have hstored : LiveMade (history ++ [s.noted (.store header.type ⟨text, header.format⟩)])
        (s.update (·.setSource header.type ⟨text, header.format⟩)).session :=
      (hmade.snoc rfl).of_eq rfl
    rw [List.append_cons]
    exact (liveMade_remark.chain hreport _ hstored).of_eq rfl
  | @compiled t reports type source hturn haction hsource result hreport =>
    have hcompiled : LiveMade (history ++ [s.asked (.compile source type
        s.session.minimumModel s.session.options) result]) s.session := hmade.snoc rfl
    rw [List.append_cons]
    exact (liveMade_remark.chain hreport _ hcompiled).of_eq rfl
  | created hturn haction data h =>
    rw [List.append_cons]
    -- The replaced resource is destroyed when the new one lives.
    refine (hmade.insert data h).append fun event hevent resource hlive => ?_
    obtain ⟨old, -, rfl⟩ := List.mem_map.mp hevent
    exact hlive

theorem liveMade_act :
    Keeps (fun history p => LiveMade history p.2.session) (Act (H := H) context) := by
  rintro p events q h history hmade
  cases h with
  | move h => exact liveMade_move h history hmade
  | close | read | execute | clear | copy | readback => exact hmade.snoc rfl
  | dispatch | draw =>
    rw [List.append_cons]
    exact ((hmade.snoc rfl).snoc rfl).of_eq rfl
  | @quad s t parts line test hready haction hcommand hcourse hready' haction' ok =>
    -- The turn itself makes nothing; the parts of the quad are moves like any others.
    have hbegun : LiveMade (history ++ [s.noted (.turn (.execute line test))]) s.session :=
      hmade.snoc rfl
    rw [List.append_cons, ← List.append_assoc]
    exact ((liveMade_move.chain hcourse _ hbegun).snoc rfl).of_eq rfl
  | @quadGivenUp s t parts line test hready haction hcommand hcourse =>
    have hbegun : LiveMade (history ++ [s.noted (.turn (.execute line test))]) s.session :=
      hmade.snoc rfl
    rw [List.append_cons]
    exact liveMade_move.chain hcourse _ hbegun
  | teardown turn s =>
    -- What is destroyed leaves the registry empty, so nothing is owed of it.
    have hdown : LiveMade (history ++ s.teardownEvents) s.session := by
      refine hmade.append fun event hevent resource hlive => ?_
      obtain ⟨_, -, rfl⟩ := List.mem_map.mp hevent
      cases hlive
    exact ⟨hdown.events, fun resource hlive => absurd hlive List.not_mem_nil⟩

/-- Whatever lives at some moment of a run was made in it. -/
theorem isMade_of_runs {text : Text} {result : RunResult}
    (h : (runFile H context text).Runs events result) :
    ∀ event ∈ events, ∀ resource ∈ event.live, IsMade events resource := by
  have hstart : LiveMade [] (RunState.start (H := H) context).session :=
    ⟨fun _ hevent => absurd hevent List.not_mem_nil, fun _ hlive => absurd hlive List.not_mem_nil⟩
  cases finishes_of_runs h with
  | orderly hacts | brokenOff hacts => exact (liveMade_act.chain hacts [] hstart).events
  | @crowded turn t before hacts desc data handle hfull line =>
    -- The refused resource is made, but does not live.
    have hbefore : LiveMade before t.session := liveMade_act.chain hacts [] hstart
    refine (hbefore.append fun event hevent resource hlive => ?_).events
    obtain rfl | hevent := List.mem_cons.mp hevent
    · exact hlive
    · obtain ⟨_, -, rfl⟩ := List.mem_map.mp hevent
      cases hlive

end Runs

end ShaderConformance
