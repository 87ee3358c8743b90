import ShaderConformance.Proofs.Dialogue
import ShaderConformance.Run.File

/-!
# Runs of steps

A run of a step starts in a state, goes through events, and ends with a value or a fault
in another state.  The lemmas of this file take a run apart along the text of its step,
so that no later proof looks into the monad of steps.

## Main statements

- `runs_bind_iff`: what follows a fault is left out
- `runs_session_bind_iff`, `runs_modifySession_bind_iff`, `runs_ask_bind_iff`,
  `runs_note_bind_iff`: the steps that cannot fail
-/

namespace ShaderConformance

/-- A moment of a run, with the answer. -/
abbrev Event (H : Type) := Dialogue.Event (Q := Moment H) Moment.Answer

namespace RunState

variable {H : Type}

/-- A request that was asked in a state, with its answer. -/
def asked (s : RunState H) (q : Request H) (a : q.Answer) : Event H := ⟨⟨s.session, .request q⟩, a⟩

/-- A note that was taken in a state. -/
def noted (s : RunState H) (n : Note) : Event H := ⟨⟨s.session, .note n⟩, ()⟩

/-- The state with another session. -/
def update (s : RunState H) (f : Session H → Session H) : RunState H :=
  { s with session := f s.session }

/-- A change of the session is all that the session sees. -/
@[simp] theorem session_update (s : RunState H) (f : Session H → Session H) :
    (s.update f).session = f s.session := rfl

/-- The state with another registry. -/
def withRegistry (s : RunState H) (f : Registry H → Registry H) : RunState H :=
  s.update fun session => { session with registry := f session.registry }

/-- A change of the registry is all that the registry sees. -/
@[simp] theorem registry_withRegistry (s : RunState H) (f : Registry H → Registry H) :
    (s.withRegistry f).session.registry = f s.session.registry := rfl

end RunState

namespace Step

variable {H E E' T U : Type} {s s' : RunState H} {events : List (Event H)}

/-- From a state, a step goes through events to a result and a state. -/
def Runs (x : Step H E T) (s : RunState H) (events : List (Event H)) (r : Except E T)
    (s' : RunState H) : Prop :=
  Dialogue.Runs (x.run.run s) events (r, s')

/-! ## Values and faults -/

/-- A value needs no event. -/
theorem runs_pure_iff {a : T} {r : Except E T} :
    (pure a : Step H E T).Runs s events r s' ↔ events = [] ∧ r = .ok a ∧ s' = s := by
  change Dialogue.Runs (.done (.ok a, s)) events (r, s') ↔ _
  rw [Dialogue.runs_done_iff, Prod.mk.injEq]

/-- A fault needs no event. -/
theorem runs_refuse_iff {fault : E} {r : Except E T} :
    (refuse fault : Step H E T).Runs s events r s' ↔
      events = [] ∧ r = .error fault ∧ s' = s := by
  change Dialogue.Runs (.done (.error fault, s)) events (r, s') ↔ _
  rw [Dialogue.runs_done_iff, Prod.mk.injEq]

/-! ## One step after another -/

/-- The part of a bind after its first step, as a dialogue. -/
theorem run_bind (x : Step H E T) (f : T → Step H E U) (s : RunState H) :
    (x >>= f).run.run s = (x.run.run s).bind fun p =>
      match p with
      | (.ok a, t) => (f a).run.run t
      | (.error e, t) => .done (.error e, t) := by
  change ((x.run.run s).bind fun p => _) = _
  -- The two ways on from the first step agree at a value and at a fault.
  congr 1
  funext p
  obtain ⟨r, t⟩ := p
  cases r <;> rfl

/-- Two steps run one after the other, unless the first one ends with a fault. -/
theorem runs_bind_iff {x : Step H E T} {f : T → Step H E U} {r : Except E U} :
    (x >>= f).Runs s events r s' ↔
      (∃ before a t after, x.Runs s before (.ok a) t ∧ (f a).Runs t after r s' ∧
        events = before ++ after) ∨
      ∃ e, x.Runs s events (.error e) s' ∧ r = .error e := by
  simp only [Runs, run_bind]
  rw [Dialogue.runs_bind_iff]
  constructor
  · rintro ⟨before, ⟨result, t⟩, after, hx, hf, rfl⟩
    cases result with
    | ok a => exact .inl ⟨before, a, t, after, hx, hf, rfl⟩
    | error e =>
      -- After a fault the second step is left out.
      obtain ⟨rfl, hr⟩ := Dialogue.runs_done_iff.mp hf
      obtain ⟨rfl, rfl⟩ := Prod.mk.inj hr
      exact .inr ⟨e, by rwa [List.append_nil], rfl⟩
  · rintro (⟨before, a, t, after, hx, hf, rfl⟩ | ⟨e, hx, rfl⟩)
    · exact ⟨before, (.ok a, t), after, hx, hf, rfl⟩
    · exact ⟨events, (.error e, s'), [], hx, .done _, (List.append_nil _).symm⟩

/-- A value is handed on. -/
theorem runs_pure_bind_iff {a : T} {f : T → Step H E U} {r : Except E U} :
    (pure a >>= f : Step H E U).Runs s events r s' ↔ (f a).Runs s events r s' := by
  rw [pure_bind]

/-- A result that is there already is asked nothing for. -/
theorem runs_ofExcept {result r : Except E T}
    (h : (ofExcept result : Step H E T).Runs s events r s') : events = [] ∧ s' = s := by
  cases result with
  | ok a =>
    obtain ⟨hevents, -, hs⟩ := runs_pure_iff.mp h
    exact ⟨hevents, hs⟩
  | error e =>
    obtain ⟨hevents, -, hs⟩ := runs_refuse_iff.mp h
    exact ⟨hevents, hs⟩

/-- The value of a success is handed on. -/
theorem runs_ofExcept_ok_bind_iff {a : T} {f : T → Step H E U} {r : Except E U} :
    (ofExcept (.ok a) >>= f : Step H E U).Runs s events r s' ↔ (f a).Runs s events r s' :=
  runs_pure_bind_iff

/-- A fault that is there already is the end. -/
theorem runs_ofExcept_error_bind_iff {e : E} {f : T → Step H E U} {r : Except E U} :
    (ofExcept (.error e) >>= f : Step H E U).Runs s events r s' ↔
      events = [] ∧ r = .error e ∧ s' = s := by
  rw [runs_bind_iff]
  constructor
  · rintro (⟨before, a, t, after, hx, -, -⟩ | ⟨e', hx, rfl⟩)
    · -- A refusal comes to no value.
      exact absurd (runs_refuse_iff.mp hx).2.1 (by simp)
    · obtain ⟨rfl, he, rfl⟩ := runs_refuse_iff.mp hx
      exact ⟨rfl, by simpa using he, rfl⟩
  · rintro ⟨rfl, rfl, rfl⟩
    exact .inr ⟨e, runs_refuse_iff.mpr ⟨rfl, rfl, rfl⟩, rfl⟩

/-- A step that cannot fail hands its value to the next one. -/
theorem Runs.bind_inv {P : List (Event H) → T → RunState H → Prop} {x : Step H E T}
    {f : T → Step H E U} {r : Except E U} (h : (x >>= f).Runs s events r s')
    (hx : ∀ {before r t}, x.Runs s before r t → ∃ a, r = .ok a ∧ P before a t) :
    ∃ before a t after, P before a t ∧ (f a).Runs t after r s' ∧ events = before ++ after := by
  obtain ⟨before, a, t, after, hrun, hf, rfl⟩ | ⟨e, hrun, rfl⟩ := runs_bind_iff.mp h
  · obtain ⟨a', ha, hP⟩ := hx hrun
    cases ha
    exact ⟨before, a, t, after, hP, hf, rfl⟩
  · obtain ⟨a', ha, -⟩ := hx hrun
    cases ha

/-- A step of which only the result is changed. -/
theorem runs_of_bind_pure {x : Step H E T} {f : T → U} {r : Except E U}
    (h : (x >>= fun value => pure (f value)).Runs s events r s') :
    ∃ r', x.Runs s events r' s' := by
  obtain ⟨before, _, t, after, hrun, hpure, rfl⟩ | ⟨_, hrun, -⟩ := runs_bind_iff.mp h
  · obtain ⟨rfl, -, rfl⟩ := runs_pure_iff.mp hpure
    exact ⟨_, by rwa [List.append_nil]⟩
  · exact ⟨_, hrun⟩

/-! ## Steps that cannot fail -/

/-- A change of the state is no event. -/
theorem runs_modify_iff {f : RunState H → RunState H} {r : Except E PUnit} :
    (modify f : Step H E PUnit).Runs s events r s' ↔ events = [] ∧ r = .ok ⟨⟩ ∧ s' = f s := by
  change Dialogue.Runs (.done (.ok ⟨⟩, f s)) events (r, s') ↔ _
  rw [Dialogue.runs_done_iff, Prod.mk.injEq]

/-- A change of the session is no event. -/
theorem runs_modifySession_iff {f : Session H → Session H} {r : Except E Unit} :
    (modifySession f : Step H E Unit).Runs s events r s' ↔
      events = [] ∧ r = .ok () ∧ s' = s.update f :=
  runs_modify_iff

/-- A request is one event with an answer. -/
theorem runs_ask_iff {q : Request H} {r : Except E q.Answer} :
    (ask q : Step H E q.Answer).Runs s events r s' ↔
      ∃ a, events = [s.asked q a] ∧ r = .ok a ∧ s' = s := by
  change Dialogue.Runs (.ask ⟨s.session, .request q⟩ fun a => .done (.ok a, s)) events (r, s') ↔ _
  simp only [Dialogue.runs_ask_iff, Dialogue.runs_done_iff, Prod.mk.injEq]
  constructor
  · rintro ⟨a, rest, rfl, rfl, hr, hs⟩
    exact ⟨a, rfl, hr, hs⟩
  · rintro ⟨a, rfl, hr, hs⟩
    exact ⟨a, [], rfl, rfl, hr, hs⟩

/-- To look at the session is no event. -/
theorem runs_session_bind_iff {f : Session H → Step H E T} {r : Except E T} :
    (session >>= f : Step H E T).Runs s events r s' ↔ (f s.session).Runs s events r s' :=
  Iff.rfl

/-- What follows a change begins with the changed state. -/
theorem runs_modify_bind_iff {g : RunState H → RunState H} {f : PUnit → Step H E T}
    {r : Except E T} :
    (modify g >>= f : Step H E T).Runs s events r s' ↔ (f ⟨⟩).Runs (g s) events r s' :=
  Iff.rfl

/-- What follows a change begins with the changed session. -/
theorem runs_modifySession_bind_iff {g : Session H → Session H} {f : Unit → Step H E T}
    {r : Except E T} :
    (modifySession g >>= f : Step H E T).Runs s events r s' ↔
      (f ()).Runs (s.update g) events r s' :=
  Iff.rfl

/-- What follows a request begins with its answer. -/
theorem runs_ask_bind_iff {q : Request H} {f : q.Answer → Step H E T} {r : Except E T} :
    (ask q >>= f : Step H E T).Runs s events r s' ↔
      ∃ a rest, events = s.asked q a :: rest ∧ (f a).Runs s rest r s' :=
  Dialogue.runs_ask_iff

/-- What follows a note begins in the same state. -/
theorem runs_note_bind_iff {n : Note} {f : Unit → Step H E T} {r : Except E T} :
    (note n >>= f : Step H E T).Runs s events r s' ↔
      ∃ rest, events = s.noted n :: rest ∧ (f ()).Runs s rest r s' := by
  change Dialogue.Runs (.ask ⟨s.session, .note n⟩ fun a => (f a).run.run s) events (r, s') ↔ _
  rw [Dialogue.runs_ask_iff]
  exact ⟨fun ⟨_, h⟩ => h, fun h => ⟨(), h⟩⟩

/-- A note is one event. -/
theorem runs_note_iff {n : Note} {r : Except E Unit} :
    (note n : Step H E Unit).Runs s events r s' ↔ events = [s.noted n] ∧ r = .ok () ∧ s' = s := by
  change (note n >>= pure : Step H E Unit).Runs s events r s' ↔ _
  rw [runs_note_bind_iff]
  constructor
  · rintro ⟨rest, rfl, hrest⟩
    obtain ⟨rfl, hr, hs⟩ := runs_pure_iff.mp hrest
    exact ⟨rfl, hr, hs⟩
  · rintro ⟨rfl, hr, hs⟩
    exact ⟨[], rfl, runs_pure_iff.mpr ⟨rfl, hr, hs⟩⟩

/-! ## Faults -/

/-- To name a fault differently is no event. -/
theorem runs_mapFault_iff {f : E → E'} {x : Step H E T} {r : Except E' T} :
    (mapFault f x).Runs s events r s' ↔ ∃ r', x.Runs s events r' s' ∧ r = r'.mapError f := by
  change Dialogue.Runs ((x.run.run s).bind fun p => .done (p.1.mapError f, p.2)) events (r, s') ↔ _
  rw [Dialogue.runs_bind_iff]
  constructor
  · rintro ⟨before, ⟨r', t⟩, after, hx, hdone, rfl⟩
    obtain ⟨rfl, hr⟩ := Dialogue.runs_done_iff.mp hdone
    obtain ⟨rfl, rfl⟩ := Prod.mk.inj hr
    exact ⟨r', by rwa [List.append_nil], rfl⟩
  · rintro ⟨r', hx, rfl⟩
    exact ⟨events, (r', s'), [], hx, .done _, (List.append_nil _).symm⟩

/-- The part after a step whose faults are handled, which hands a value on and gives a fault to
    the handler. -/
theorem run_tryCatch (x : Step H E T) (handler : E → Step H E T) (s : RunState H) :
    (tryCatch x handler).run.run s = (x.run.run s).bind fun p =>
      match p with
      | (.ok a, t) => .done (.ok a, t)
      | (.error e, t) => (handler e).run.run t := by
  change ((x.run.run s).bind fun p => _) = _
  congr 1
  funext p
  obtain ⟨r, t⟩ := p
  cases r <;> rfl

/-- A step succeeds, or its fault is handled from the state in which it left. -/
theorem runs_tryCatch_iff {x : Step H E T} {handler : E → Step H E T} {r : Except E T} :
    (tryCatch x handler).Runs s events r s' ↔
      (∃ a, x.Runs s events (.ok a) s' ∧ r = .ok a) ∨
      ∃ before e t after, x.Runs s before (.error e) t ∧ (handler e).Runs t after r s' ∧
        events = before ++ after := by
  simp only [Runs, run_tryCatch]
  rw [Dialogue.runs_bind_iff]
  constructor
  · rintro ⟨before, ⟨result, t⟩, after, hx, hf, rfl⟩
    cases result with
    | ok a =>
      obtain ⟨rfl, hr⟩ := Dialogue.runs_done_iff.mp hf
      obtain ⟨rfl, rfl⟩ := Prod.mk.inj hr
      exact .inl ⟨a, by rwa [List.append_nil], rfl⟩
    | error e => exact .inr ⟨before, e, t, after, hx, hf, rfl⟩
  · rintro (⟨a, hx, rfl⟩ | ⟨before, e, t, after, hx, hf, rfl⟩)
    · exact ⟨events, (.ok a, s'), [], hx, .done _, (List.append_nil _).symm⟩
    · exact ⟨before, (.error e, t), after, hx, hf, rfl⟩

end Step

end ShaderConformance
