import Mathlib.Algebra.Order.Group.Multiset
import ShaderConformance.Proofs.FileActs

/-!
# What becomes of the handles of a backend

A run owns a handle from its creation to its destruction.  Handles are counted, so that
nothing is assumed of a backend that gives one handle twice.

## Main definitions

- `created`, `destroyed`, `leaked`: the handles of some events
- `Balanced`: events that account for all handles

## Main statements

- `balanced_of_act`: the acts of a run account for all handles
- `created_eq_destroyed_add_leaked`: a run destroys what it creates, except for a resource
  that a full registry refuses
-/

namespace ShaderConformance

variable {H : Type}

/-! ## Handles of events -/

/-- The resources that a backend is handed with a request. -/
def Request.handed : Request H → List (Resource H)
  | .destroy resource => [resource]
  | .clear resource _ => [resource]
  | .readback resource _ => [resource]
  | .copy source target => [source, target]
  | .draw state _ _ _ => state.registry.resources
  | .dispatch state _ _ _ => state.registry.resources
  | .create _ _ | .compile _ _ _ _ | .preprocess _ | .log _ => []

namespace Event

/-- The resources that a backend is handed at an event. -/
def handed (event : Event H) : List (Resource H) :=
  match event.question.deed with
  | .request q => q.handed
  | .note _ => []

/-- The handle that a backend gives at an event. -/
def created? : Event H → Option H
  | ⟨⟨_, .request (.create _ _)⟩, .ok handle⟩ => some handle
  | _ => none

/-- The handle that is destroyed at an event. -/
def destroyed? : Event H → Option H
  | ⟨⟨_, .request (.destroy resource)⟩, _⟩ => some resource.handle
  | _ => none

/-- The handle that a backend gives at an event for a resource that the registry refuses. -/
def leaked? : Event H → Option H
  | ⟨⟨session, .request (.create desc _)⟩, .ok handle⟩ =>
    if session.registry.refuses desc.ref then some handle else none
  | _ => none

end Event

/-- The handles that a backend gave. -/
def created (events : List (Event H)) : Multiset H := events.filterMap Event.created?

/-- The handles that were destroyed. -/
def destroyed (events : List (Event H)) : Multiset H := events.filterMap Event.destroyed?

/-- The handles of resources that a full registry refused. -/
def leaked (events : List (Event H)) : Multiset H := events.filterMap Event.leaked?

theorem created_append (events events' : List (Event H)) :
    created (events ++ events') = created events + created events' := by
  rw [created, List.filterMap_append, ← Multiset.coe_add]
  rfl

theorem destroyed_append (events events' : List (Event H)) :
    destroyed (events ++ events') = destroyed events + destroyed events' := by
  rw [destroyed, List.filterMap_append, ← Multiset.coe_add]
  rfl

theorem leaked_append (events events' : List (Event H)) :
    leaked (events ++ events') = leaked events + leaked events' := by
  rw [leaked, List.filterMap_append, ← Multiset.coe_add]
  rfl

/-! ## Balanced events -/

/-- From `m` live handles to `m'` live handles, every handle is created before it is handed
    over or destroyed, and only the handles of `lost` are lost. -/
structure Balanced (m : Multiset H) (events : List (Event H)) (lost m' : Multiset H) : Prop where
  balance : created events + m = destroyed events + (lost + m')
  leaks : leaked events = lost
  owned : Throughout (fun before event => ∀ resource ∈ event.handed,
    resource.handle ::ₘ destroyed before ≤ created before + m) events

namespace Balanced

variable {m m' m'' lost : Multiset H} {events events' : List (Event H)} {event : Event H}
  {s : RunState H}

theorem nil (m : Multiset H) : Balanced m [] 0 m := ⟨congrArg _ (zero_add m).symm, rfl, .nil⟩

/-- Balances add up. -/
theorem append (h : Balanced m events 0 m') (h' : Balanced m' events' lost m'') :
    Balanced m (events ++ events') lost m'' := by
  -- What the first events destroy and leave live is what they create or find live.
  have hfirst : created events + m = destroyed events + m' := by rw [h.balance, zero_add]
  refine ⟨?_, by rw [leaked_append, h.leaks, h'.leaks, zero_add], ?_⟩
  · calc created (events ++ events') + m
        = created events' + (created events + m) := by
          rw [created_append, add_comm (created events), add_assoc]
      _ = destroyed events + (created events' + m') := by rw [hfirst, add_left_comm]
      _ = destroyed (events ++ events') + (lost + m'') := by
          rw [h'.balance, destroyed_append, add_assoc]
  · -- A later event owns its resources in view of the handles that the first events leave.
    refine h.owned.append fun before event after heq resource hresource => ?_
    have howned := h'.owned before event after heq resource hresource
    calc resource.handle ::ₘ destroyed (events ++ before)
        = destroyed events + (resource.handle ::ₘ destroyed before) := by
          rw [destroyed_append, Multiset.add_cons]
      _ ≤ destroyed events + (created before + m') := add_le_add_right howned _
      _ = created before + (created events + m) := by rw [add_left_comm, hfirst]
      _ = created (events ++ before) + m := by rw [created_append, add_assoc, add_left_comm]

/-- An event that neither creates nor destroys, at which only live resources are handed
    over. -/
theorem use (hcreated : event.created? = none) (hdestroyed : event.destroyed? = none)
    (hleaked : event.leaked? = none) (h : ∀ resource ∈ event.handed, resource.handle ∈ m) :
    Balanced m [event] 0 m where
  balance := by simp [created, destroyed, hcreated, hdestroyed]
  leaks := by simp [leaked, hleaked]
  owned := .singleton fun resource hresource => by
    have hlive := Multiset.singleton_le.mpr (h resource hresource)
    simpa [created, destroyed] using hlive

/-- An event at which a backend is handed nothing. -/
theorem aside (hcreated : event.created? = none) (hdestroyed : event.destroyed? = none)
    (hleaked : event.leaked? = none) (hhanded : event.handed = []) : Balanced m [event] 0 m :=
  use hcreated hdestroyed hleaked (by simp [hhanded])

/-- A creation adds the handle that it gives. -/
theorem create {desc : ResourceDesc} (hroom : s.session.registry.refuses desc.ref = false)
    (data : List UInt8) (handle : H) :
    Balanced m [s.asked (.create desc data) (.ok handle)] 0 (handle ::ₘ m) where
  balance := by
    rw [zero_add]
    exact (Multiset.singleton_add handle m).trans (zero_add _).symm
  leaks := by simp [leaked, RunState.asked, Event.leaked?, hroom]
  owned := .singleton fun resource hresource => absurd hresource List.not_mem_nil

/-- A resource that a full registry refuses is lost, whatever follows. -/
theorem leak {desc : ResourceDesc} (hfull : s.session.registry.refuses desc.ref = true)
    (data : List UInt8) (handle : H) (h : Balanced m events 0 m') :
    Balanced m (s.asked (.create desc data) (.ok handle) :: events) {handle} m' := by
  have hcreated (events : List (Event H)) :
      created (s.asked (.create desc data) (.ok handle) :: events) =
        handle ::ₘ created events := rfl
  have hdestroyed (events : List (Event H)) :
      destroyed (s.asked (.create desc data) (.ok handle) :: events) = destroyed events := rfl
  refine ⟨?_, ?_, ?_⟩
  · -- The lost handle is created, and neither destroyed nor live.
    rw [hcreated, hdestroyed, Multiset.cons_add, h.balance, zero_add, ← Multiset.add_cons,
      Multiset.singleton_add]
  · have hleaked : (s.asked (.create desc data) (.ok handle)).leaked? = some handle := by
      simp [RunState.asked, Event.leaked?, hfull]
    have hkept := h.leaks
    rw [leaked] at hkept ⊢
    rw [List.filterMap_cons_some hleaked, ← Multiset.cons_coe, hkept]
    rfl
  · -- One handle more was created before each event that follows.
    refine Throughout.append (.singleton fun resource hresource =>
      absurd hresource List.not_mem_nil) fun before event after heq resource hresource => ?_
    have howned := h.owned before event after heq resource hresource
    rw [List.singleton_append, hcreated, hdestroyed, Multiset.cons_add]
    exact howned.trans (Multiset.le_cons_self _ _)

/-- A destruction takes away the handle of its resource. -/
theorem destroy (s : RunState H) (resource : Resource H) :
    Balanced (resource.handle ::ₘ m) [s.asked (.destroy resource) ()] 0 m where
  balance := by
    rw [zero_add]
    exact (zero_add _).trans (Multiset.singleton_add resource.handle m).symm
  leaks := rfl
  owned := .singleton fun resource' hresource => by
    obtain rfl := List.mem_singleton.mp hresource
    exact (Multiset.cons_le_cons _ (Multiset.zero_le m)).trans_eq (zero_add _).symm

end Balanced

/-! ## Balanced runs -/

/-- The handles of the live resources. -/
def live (s : RunState H) : Multiset H := s.session.registry.resources.map (·.handle)

/-- The handle of a resource in the registry is alive. -/
theorem handle_mem_live {s : RunState H} {resource : Resource H}
    (h : resource ∈ s.session.registry.resources) : resource.handle ∈ live s :=
  Multiset.mem_coe.mpr (List.mem_map_of_mem h)

/-- Only the live resources of a state matter. -/
theorem Balanced.of_resources {s t : RunState H} {events : List (Event H)}
    (hresources : t.session.registry.resources = s.session.registry.resources)
    (h : Balanced (live s) events 0 (live s)) : Balanced (live s) events 0 (live t) := by
  have hlive : live t = live s := by
    rw [live, hresources]
    rfl
  rwa [hlive]

section Runs

variable {context : RunContext} {turn : Option Turn} {s t : RunState H} {events : List (Event H)}

/-- A chain of balanced steps is balanced. -/
theorem balanced_of_chain {S : Type} (view : S → Multiset H) {R : S → List (Event H) → S → Prop}
    (hR : ∀ {s events t}, R s events t → Balanced (view s) events 0 (view t)) {s t : S}
    (h : Chain R s events t) : Balanced (view s) events 0 (view t) := by
  induction h with
  | refl s => exact .nil _
  | step first _ ih => exact (hR first).append ih

/-- A remark creates and destroys nothing. -/
theorem balanced_of_remark (h : Remark turn s events t) : Balanced (live s) events 0 (live t) := by
  cases h <;> exact .aside rfl rfl rfl rfl

theorem coe_handles_cons (front : List (Resource H)) (resource : Resource H)
    (back : List (Resource H)) :
    (↑((front ++ resource :: back).map (·.handle)) : Multiset H) =
      resource.handle ::ₘ (↑(front.map (·.handle)) + ↑(back.map (·.handle))) := by
  rw [List.map_append, List.map_cons, ← Multiset.coe_add, ← Multiset.cons_coe, Multiset.add_cons]

/-- What replaces a resource takes over its place among the live ones. -/
theorem balanced_of_insert {desc : ResourceDesc} {handle : H} {replaced : Option (Resource H)}
    {registry : Registry H} (data : List UInt8)
    (h : (s.session.registry.clearFailed desc.ref).insert ⟨desc, handle⟩ =
      (.ok replaced, registry)) :
    Balanced (live s)
      (s.asked (.create desc data) (.ok handle) ::
        Step.replacedEvents (s.withRegistry fun _ => registry) replaced)
      0 (live (s.withRegistry fun _ => registry)) := by
  have hroom : s.session.registry.refuses desc.ref = false :=
    Registry.refuses_eq_false_of_insert h
  have hcreate : Balanced (live s) [s.asked (.create desc data) (.ok handle)]
      0 (handle ::ₘ live s) := .create hroom data handle
  obtain ⟨-, -, ⟨old, front, back, rfl, hbefore, hafter, -⟩ | ⟨rfl, hafter⟩⟩ :=
    Registry.insert_ok h
  · -- The old resource is live until the new one stands in its place, and destroyed then.
    have hold : live s =
        old.handle ::ₘ (↑(front.map (·.handle)) + ↑(back.map (·.handle))) := by
      rw [live, ← Registry.resources_clearFailed, hbefore, coe_handles_cons]
    have hnew : live (s.withRegistry fun _ => registry) =
        handle ::ₘ (↑(front.map (·.handle)) + ↑(back.map (·.handle))) := by
      rw [live, RunState.registry_withRegistry, hafter, coe_handles_cons]
    rw [hold, Multiset.cons_swap] at hcreate
    rw [hold, hnew]
    exact hcreate.append (.destroy _ old)
  · -- Nothing is replaced, so the new resource comes last.
    have hnew : live (s.withRegistry fun _ => registry) = handle ::ₘ live s := by
      rw [live, RunState.registry_withRegistry, hafter, coe_handles_cons, List.map_nil,
        Multiset.coe_nil, add_zero]
      rfl
    rw [hnew]
    exact hcreate

/-- A move is balanced. -/
theorem balanced_of_move (h : Move context turn s events t) :
    Balanced (live s) events 0 (live t) := by
  cases h with
  | remark h => exact balanced_of_remark h
  | settings | require | halt | resume => exact .nil _
  | sampler sampler =>
    exact .of_resources (Registry.resources_setSampler _ sampler) (.nil _)
  | store | variant | preprocessed => exact .aside rfl rfl rfl rfl
  -- A compile that is left out is only reported.
  | refuse hturn haccepts hreport reason =>
    have hreports := balanced_of_chain live (fun h => balanced_of_remark h) hreport
    exact (Balanced.aside rfl rfl rfl rfl).append hreports
  | compiled hturn haction hsource result hreport =>
    have hreports := balanced_of_chain live (fun h => balanced_of_remark h) hreport
    exact (Balanced.aside rfl rfl rfl rfl).append hreports
  | quad hturn hquad haction result =>
    exact (Balanced.aside rfl rfl rfl rfl).append (.aside rfl rfl rfl rfl)
  -- Only creations and their replacements change what is alive.
  | created hturn haction data h => exact balanced_of_insert data h
  | notCreated desc hturn haction data error =>
    exact .of_resources (Registry.resources_markFailed _ _) (.aside rfl rfl rfl rfl)

/-- Everything live is destroyed at the end. -/
theorem balanced_teardown (s : RunState H) : Balanced (live s) s.teardownEvents 0 0 := by
  have hdestroy (resources : List (Resource H)) :
      Balanced (↑(resources.map (·.handle)) : Multiset H)
        (resources.map fun resource => s.emptied.asked (.destroy resource) ()) 0 0 := by
    induction resources with
    | nil => exact .nil 0
    | cons resource more ih => exact (Balanced.destroy s.emptied resource).append ih
  exact hdestroy s.session.registry.resources

theorem balanced_of_act {p q : Option Turn × RunState H} (h : Act context p events q) :
    Balanced (live p.2) events 0 (live q.2) := by
  have hmoves {turn : Option Turn} {s t : RunState H} {events : List (Event H)}
      (h : Course context turn s events t) : Balanced (live s) events 0 (live t) :=
    balanced_of_chain live balanced_of_move h
  cases h with
  | move h => exact balanced_of_move h
  | close | read | execute => exact .aside rfl rfl rfl rfl
  | clear s hready haction hlive value ok =>
    exact .use rfl rfl rfl fun resource hresource => by
      obtain rfl := List.mem_singleton.mp hresource
      exact handle_mem_live hlive
  | copy s hready haction hsource htarget ok =>
    exact .use rfl rfl rfl fun resource hresource => by
      obtain rfl | hresource := List.mem_cons.mp hresource
      · exact handle_mem_live hsource
      · obtain rfl := List.mem_singleton.mp hresource
        exact handle_mem_live htarget
  | readback s hready haction hcommand hrendered hlive subresource result =>
    exact .use rfl rfl rfl fun resource hresource => by
      obtain rfl := List.mem_singleton.mp hresource
      exact handle_mem_live hlive
  | dispatch s hready haction hcommand ok =>
    exact (Balanced.aside rfl rfl rfl rfl).append
      (.use rfl rfl rfl fun resource hresource => handle_mem_live hresource)
  | draw s hready haction hcommand ok =>
    exact (Balanced.aside rfl rfl rfl rfl).append
      (.use rfl rfl rfl fun resource hresource => handle_mem_live hresource)
  | quad hready haction hcommand hmade hready' haction' ok =>
    -- The draw is handed what is live after the parts were made.
    exact (Balanced.aside rfl rfl rfl rfl).append ((hmoves hmade).append
      (.use rfl rfl rfl fun resource hresource => handle_mem_live hresource))
  | quadGivenUp hready haction hcommand hmade =>
    exact (Balanced.aside rfl rfl rfl rfl).append (hmoves hmade)
  | teardown turn s => exact balanced_teardown s

/-- A run that comes to a result destroys what it creates, and no run destroys a handle before it
    hands it over for the last time.  The exception is a resource that a full registry refuses,
    which ends the run: nothing destroys its handle. -/
theorem created_eq_destroyed_add_leaked {text : Text} {result : RunResult}
    (h : (runFile H context text).Runs events result) :
    (result.breaksOff = false → created events = destroyed events + leaked events) ∧
      (leaked events = 0 ∨ ∃ handle line, leaked events = {handle} ∧
        result = .error ⟨line, .tooManyResources maxResources⟩) ∧
      Throughout (fun before event => ∀ resource ∈ event.handed,
        resource.handle ::ₘ destroyed before ≤ created before) events := by
  -- It is enough to balance the events from nothing live to what is left behind.
  suffices hends : ∃ lost left, Balanced 0 events lost left ∧
      (result.breaksOff = false → left = 0) ∧ (lost = 0 ∨ ∃ handle line,
        lost = {handle} ∧ result = .error ⟨line, .tooManyResources maxResources⟩) by
    obtain ⟨lost, left, hbalanced, hleft, hlost⟩ := hends
    refine ⟨fun hreturns => ?_, by rwa [hbalanced.leaks], fun before event after heq resource
      hresource => ?_⟩
    · obtain rfl := hleft hreturns
      simpa [hbalanced.leaks] using hbalanced.balance
    · simpa using hbalanced.owned before event after heq resource hresource
  have hstart {turn : Option Turn} {t : RunState H} {events : List (Event H)}
      (h : Chain (Act context) (none, .start context) events (turn, t)) :
      Balanced 0 events 0 (live t) :=
    balanced_of_chain (fun p : Option Turn × RunState H => live p.2) balanced_of_act h
  cases finishes_of_runs h with
  | @orderly turn t _ hchain hempty =>
    refine ⟨0, live t, hstart hchain, fun _ => ?_, .inl rfl⟩
    rw [live, hempty]
    rfl
  | @brokenOff turn t _ hchain _ hbreaks =>
    -- Nothing is destroyed of what was live when the run broke off.
    refine ⟨0, live t, hstart hchain, fun hreturns => ?_, .inl rfl⟩
    rw [hbreaks] at hreturns
    cases hreturns
  | @crowded turn t before hchain desc data handle hfull line =>
    -- The refused handle is lost between the acts and the teardown.
    refine ⟨{handle}, 0, ?_, fun _ => rfl, .inr ⟨handle, line, rfl, rfl⟩⟩
    have hdown : Balanced (live t) (t.withRegistry (·.clearFailed desc.ref)).teardownEvents 0 0 :=
      balanced_teardown (t.withRegistry (·.clearFailed desc.ref))
    exact (hstart hchain).append (.leak hfull data handle hdown)

/-- One resource more than may live. -/
def overfull : Text :=
  (List.range (maxResources + 1)).flatMap fun slot => s!"[rtv {slot}]\n".toList

/-- What a run of that file goes through. -/
def overfullEvents : List (Event Nat) :=
  journalEvents .willing none ⟨"overfull", .run, .plain⟩ overfull

/-- The last of its resources is refused, and nothing destroys what was created for it. -/
theorem created_overfull :
    (∃ line, (runFile Nat ⟨"overfull", .run, .plain⟩ overfull).Runs overfullEvents
      (.error ⟨line, .tooManyResources maxResources⟩)) ∧
    created overfullEvents = destroyed overfullEvents + {32} := by
  have hruns := runs_journalEvents .willing none ⟨"overfull", .run, .plain⟩ overfull
  -- Handles are numbered from 0, and the last one is lost.
  have hleaked : leaked overfullEvents = {32} := by decide +kernel
  obtain ⟨hbalance, hlost, -⟩ := created_eq_destroyed_add_leaked hruns
  rw [← overfullEvents, hleaked] at hbalance hlost
  obtain hnone | ⟨handle, line, -, hresult⟩ := hlost
  · exact absurd hnone (Multiset.singleton_ne_zero 32)
  · rw [hresult] at hruns hbalance
    exact ⟨⟨line, hruns⟩, hbalance rfl⟩

end Runs

end ShaderConformance
