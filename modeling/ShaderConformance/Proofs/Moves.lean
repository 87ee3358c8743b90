import ShaderConformance.Proofs.Registry
import ShaderConformance.Proofs.Step

/-!
# Moves of a run

Everything that a run does between two test commands is made of a few moves: it reports
something, changes a setting, takes in the requirements of a block, stores, compiles or
preprocesses a source, and creates a resource.  This file says what each move asks, when
it is made and what it changes, so that an invariant of runs needs one case for each move
and not one for each step.

## Main definitions

- `Chain`: some moves one after another
- `Keeps`: what has happened, together with the state, keeps having a property
- `Remark`, `Move`, `Course`: the moves that only report, all moves, and chains of them
- `Proceeds`: a chain of moves, unless a full registry stops the run
-/

namespace ShaderConformance

/-! ## Chains -/

section Chain

variable {S E : Type} {R R' : S → List E → S → Prop} {I : List E → S → Prop} {s t u : S}
  {events events' : List E}

/-- Some moves one after another, with all that happens meanwhile. -/
inductive Chain (R : S → List E → S → Prop) : S → List E → S → Prop
  | refl (s : S) : Chain R s [] s
  | step {s t u : S} {events events' : List E} (first : R s events t) (rest : Chain R t events' u) :
      Chain R s (events ++ events') u

namespace Chain

theorem single (h : R s events t) : Chain R s events t := by
  have h := Chain.step h (.refl t)
  rwa [List.append_nil] at h

theorem trans (h : Chain R s events t) (h' : Chain R t events' u) :
    Chain R s (events ++ events') u := by
  -- By induction on the first chain.
  induction h with
  | refl => exact h'
  | step first _ ih =>
    rw [List.append_assoc]
    exact .step first (ih h')

theorem mono (hR : ∀ {s events t}, R s events t → R' s events t) (h : Chain R s events t) :
    Chain R' s events t := by
  induction h with
  | refl s => exact .refl s
  | step first _ ih => exact .step (hR first) ih

/-- What holds of all that happens at each move holds of all that happens. -/
theorem forall_mem {P : E → Prop} (hR : ∀ {s events t}, R s events t → ∀ event ∈ events, P event)
    (h : Chain R s events t) : ∀ event ∈ events, P event := by
  induction h with
  | refl => exact fun event hevent => absurd hevent List.not_mem_nil
  | step first _ ih => exact List.forall_mem_append.mpr ⟨hR first, ih⟩

/-- A first move during which nothing happens. -/
theorem silent (first : R s [] t) (rest : Chain R t events u) : Chain R s events u :=
  .step first rest

/-- A chain in front of one more event. -/
theorem cons {event : E} (first : R s [event] t) (rest : Chain R t events u) :
    Chain R s (event :: events) u :=
  .step first rest

end Chain

/-- Whatever has happened before, `I` goes on to hold when `R` goes on. -/
def Keeps (I : List E → S → Prop) (R : S → List E → S → Prop) : Prop :=
  ∀ ⦃s events t⦄, R s events t → ∀ history, I history s → I (history ++ events) t

/-- What each step keeps is kept by a chain of them. -/
theorem Keeps.chain (h : Keeps I R) : Keeps I (Chain R) := by
  intro s events t hchain
  -- By induction on the moves; what happens at the first one joins the history of the rest.
  induction hchain with
  | refl =>
    intro history hI
    rwa [List.append_nil]
  | step first _ ih =>
    intro history hI
    rw [← List.append_assoc]
    exact ih _ (h first history hI)

/-- What goes on to hold with each of some events holds after all of them. -/
theorem holds_append {J : List E → Prop} {history : List E} (h : J history)
    (hJ : ∀ history, J history → ∀ event ∈ events, J (history ++ [event])) :
    J (history ++ events) := by
  induction events generalizing history with
  | nil => rwa [List.append_nil]
  | cons event events ih =>
    -- The first event joins the history, and the others come after it.
    have hfirst : J (history ++ [event]) := hJ history h event List.mem_cons_self
    rw [List.append_cons]
    exact ih hfirst fun history h event hevent =>
      hJ history h event (List.mem_cons_of_mem _ hevent)

/-- Every event of a list has a property in view of the events before it. -/
def Throughout (P : List E → E → Prop) (events : List E) : Prop :=
  ∀ before event after, events = before ++ event :: after → P before event

namespace Throughout

variable {P : List E → E → Prop} {history : List E} {event : E}

theorem nil : Throughout P [] := by
  intro before event after h
  exact absurd h (by simp)

/-- What holds of the events of both parts holds of all. -/
theorem append (hhistory : Throughout P history)
    (hevents : Throughout (fun before event => P (history ++ before) event) events) :
    Throughout P (history ++ events) := by
  intro before event after h
  -- Either the event is past the history, or what is left of the history begins with it.
  obtain ⟨rest, rfl, hrest⟩ | ⟨rest, hhist, hrest⟩ := List.append_eq_append_iff.mp h
  · exact hevents rest event after hrest
  · cases rest with
    | nil =>
      -- Nothing is left of it, so the event is the first one past it.
      have h : P (history ++ []) event := hevents [] event after hrest.symm
      rwa [hhist, List.append_nil, List.append_nil] at h
    | cons e rest =>
      obtain ⟨rfl, -⟩ := List.cons.inj hrest
      exact hhistory before event rest hhist

theorem singleton (h : P [] event) : Throughout P [event] := by
  intro before e after heq
  obtain ⟨rfl, rfl, -⟩ : before = [] ∧ event = e ∧ after = [] := by
    cases before with
    | nil => simpa using heq
    | cons e' before => simp at heq
  exact h

/-- What holds of one more event holds of all. -/
theorem snoc (hhistory : Throughout P history) (hevent : P history event) :
    Throughout P (history ++ [event]) :=
  hhistory.append (singleton (by rwa [List.append_nil]))

/-- What holds of every event with any history holds throughout. -/
theorem of_forall (h : ∀ before, ∀ event ∈ events, P before event) : Throughout P events := by
  rintro before event after rfl
  exact h before event (by simp)

end Throughout

end Chain

/-! ## Moves -/

/-- Whether a command compares the contents of a resource. -/
def Command.isProbe : Command → Bool
  | .probe _ _ _ _ => true
  | _ => false

/-- Whether what a run turned to is the execution of a probe. -/
def Turn.isProbe : Turn → Bool
  | .execute _ test => test.command.isProbe
  | _ => false

/-- Whether a run creates resources at a turn. -/
def Turn.creates : Turn → Bool
  | .close (.resource _) _ => true
  | .execute _ test => test.command = .drawQuad
  | _ => false

section Moves

variable {H : Type} (context : RunContext) (turn : Option Turn)

/-- A move that only reports.  The checks of a probe come after no failed draw. -/
inductive Remark : RunState H → List (Event H) → RunState H → Prop
  | log (s : RunState H) (entry : LogEntry) : Remark s [s.asked (.log entry) ()] s
  | check (s : RunState H) (c : Check)
      (hprobe : turn.any Turn.isProbe = true → s.session.lastRenderFailed = false) :
      Remark s [s.noted (.check c)] { s with summary := s.summary.count c.outcome }
  | skip (s : RunState H) (line : Nat) (reason : String) :
      Remark s [s.noted (.skip line reason)] { s with summary := s.summary.skip }

/-- A move of a run, outside of the commands that use resources. -/
inductive Move : RunState H → List (Event H) → RunState H → Prop
  | remark {s t : RunState H} {events : List (Event H)} (h : Remark turn s events t) :
      Move s events t
  /-- What draws see besides shaders and resources. -/
  | settings (s : RunState H) (inputElements : List InputElement) (uniforms : List UInt8)
      (viewports : Vector (Option Viewport) maxViewports) (fixed : FixedFunctionState) :
      Move s [] (s.update ({ · with inputElements, uniforms, viewports, fixed }))
  /-- A sampler is defined, or refused by the registry. -/
  | sampler (s : RunState H) (sampler : SamplerDesc) :
      Move s [] (s.withRegistry fun registry => (registry.setSampler sampler).2)
  /-- The requirements of a block. -/
  | require (s : RunState H) {block : RequireBlock} {line : Nat}
      (hturn : turn = some (.close (.require block) line)) :
      Move s [] (s.update (Step.underRequirements · (block.evaluate context.caps)))
  /-- Tests are skipped from here on, for unmet requirements. -/
  | halt (s : RunState H) {block : RequireBlock} {line : Nat} {reason : String}
      (hturn : turn = some (.close (.require block) line))
      (hunmet : (block.evaluate context.caps).skipReason? = some reason) :
      Move s [] (s.update ({ · with action := .skip, skipReason := some reason }))
  /-- Tests are no longer skipped, since all requirements are met. -/
  | resume (s : RunState H) {block : RequireBlock} {line : Nat}
      (hturn : turn = some (.close (.require block) line))
      (hmet : (block.evaluate context.caps).skipReason? = none) :
      Move s [] (s.update ({ · with action := context.mode.action, skipReason := none }))
  /-- The source of a shader block. -/
  | store (s : RunState H) {header : ShaderHeader} {text : Text} {line : Nat}
      (hturn : turn = some (.close (.shader header text) line))
      (hkept : context.caps.accepts header.format = true ∨ s.session.action ≠ .run) :
      Move s [s.noted (.store header.type ⟨text, header.format⟩)]
        (s.update (·.setSource header.type ⟨text, header.format⟩))
  /-- The source of a shader block that is not accepted, for which tests are skipped from
      here on. -/
  | refuse {s t : RunState H} {events : List (Event H)} {header : ShaderHeader} {text : Text}
      {line : Nat} (hturn : turn = some (.close (.shader header text) line))
      (haccepts : context.caps.accepts header.format = false)
      (hreport : Chain (Remark turn)
        (s.update (·.setSource header.type ⟨text, header.format⟩)) events t) (reason : String) :
      Move s (s.noted (.store header.type ⟨text, header.format⟩) :: events)
        (t.update ({ · with action := .skip, skipReason := some reason }))
  /-- A compile whose result is only checked. -/
  | variant (s : RunState H) {header : ShaderHeader} {text : Text} {line : Nat}
      (hturn : turn = some (.close (.shader header text) line))
      (haction : s.session.action = .compile) (haccepts : context.caps.accepts header.format = true)
      (model : ShaderModel) (result : Except CompileError CompiledShader) :
      Move s [s.asked (.compile ⟨text, header.format⟩ header.type model s.session.options) result] s
  /-- A compile of a stored source whose result is kept, after it was reported: at the end
      of a shader block, or at a test line. -/
  | compiled {s t : RunState H} {events : List (Event H)} {type : ShaderType}
      {source : ShaderSource}
      (hturn : (∃ header text line, turn = some (.close (.shader header text) line) ∧
          header.type = type ∧ source = ⟨text, header.format⟩ ∧
          context.caps.accepts header.format = true) ∨
        ∃ line test, turn = some (.read line test))
      (haction : s.session.action = .run) (hsource : (s.session.stage type).source = some source)
      (result : Except CompileError CompiledShader) (hreport : Chain (Remark turn) s events t) :
      Move s (s.asked (.compile source type s.session.minimumModel s.session.options) result ::
          events)
        (t.update (·.setCompiled type s.session.minimumModel result.toOption))
  /-- The vertex shader of a quad. -/
  | quad (s : RunState H) {line : Nat} {test : TestLine}
      (hturn : turn = some (.execute line test)) (hquad : test.command = .drawQuad)
      (haction : s.session.action = .run) (result : Except CompileError CompiledShader) :
      Move s
        [s.asked (.compile (Step.quadShader s.session) .vertex s.session.minimumModel
            s.session.options) result,
          s.noted (.store .vertex (Step.quadShader s.session))]
        (s.update fun session => (session.setSource .vertex (Step.quadShader s.session)).setCompiled
          .vertex session.minimumModel result.toOption)
  | preprocessed (s : RunState H) {refused : Bool} {text : Text} {line : Nat}
      (hturn : turn = some (.close (.preproc refused text) line))
      (hmode : context.mode = .compileOnly) (haction : s.session.action ≠ .skip)
      (result : Except CompileError Text) : Move s [s.asked (.preprocess text) result] s
  /-- A resource becomes live, and the one that it replaces is destroyed. -/
  | created (s : RunState H) {desc : ResourceDesc} {handle : H} {replaced : Option (Resource H)}
      {registry : Registry H} (hturn : turn.any Turn.creates = true)
      (haction : s.session.action ≠ .skip) (data : List UInt8)
      (h : (s.session.registry.clearFailed desc.ref).insert ⟨desc, handle⟩ =
        (.ok replaced, registry)) :
      Move s
        (s.asked (.create desc data) (.ok handle) ::
          replaced.toList.map fun old =>
            (s.withRegistry fun _ => registry).asked (.destroy old) ())
        (s.withRegistry fun _ => registry)
  | notCreated (s : RunState H) (desc : ResourceDesc)
      (hturn : turn.any Turn.creates = true) (haction : s.session.action ≠ .skip)
      (data : List UInt8) (error : BackendError) :
      Move s [s.asked (.create desc data) (.error error)]
        (s.withRegistry (·.markFailed desc.ref))

/-- Some moves at one turn. -/
abbrev Course : RunState H → List (Event H) → RunState H → Prop := Chain (Move context turn)

end Moves

/-! ## Full registries -/

section Proceeds

variable {H E E' T U : Type} {R R' : RunState H → List (Event H) → RunState H → Prop}
  {blame : E → Fault} {blame' : E' → Fault} {s t u : RunState H} {events events' : List (Event H)}

/-- A step goes on as `R` says, with any result; or at last it creates a resource that the
    full registry refuses, which is the fault that it ends with.  `blame` is the cause in
    a fault. -/
inductive Proceeds (R : RunState H → List (Event H) → RunState H → Prop) (blame : E → Fault) :
    RunState H → List (Event H) → Except E T → RunState H → Prop
  | orderly {s t : RunState H} {events : List (Event H)} (h : R s events t) (r : Except E T) :
      Proceeds R blame s events r t
  | crowded {s t : RunState H} {events : List (Event H)} (h : R s events t)
      (desc : ResourceDesc) (data : List UInt8) (handle : H)
      (hfull : t.session.registry.refuses desc.ref = true) {e : E}
      (he : blame e = .tooManyResources maxResources) :
      Proceeds R blame s (events ++ [t.asked (.create desc data) (.ok handle)]) (.error e)
        (t.withRegistry (·.clearFailed desc.ref))

namespace Proceeds

/-- Only a fault can come of a refused resource. -/
theorem of_ok {a : T} (h : Proceeds R blame s events (.ok a) t) : R s events t := by
  cases h with
  | orderly h => exact h

theorem mono {r : Except E T} (hR : ∀ {s events t}, R s events t → R' s events t)
    (h : Proceeds R blame s events r t) : Proceeds R' blame s events r t := by
  cases h with
  | orderly h r => exact .orderly (hR h) r
  | crowded h desc data handle hfull he => exact .crowded (hR h) desc data handle hfull he

/-- What goes before a step goes before all that comes of it. -/
theorem after {r : Except E T} (h : Proceeds R blame t events' r u)
    (hbefore : ∀ {events' u}, R t events' u → R' s (events ++ events') u) :
    Proceeds R' blame s (events ++ events') r u := by
  cases h with
  | orderly h r => exact .orderly (hbefore h) r
  | crowded h desc data handle hfull he =>
    -- The refused creation stays at the end.
    rw [← List.append_assoc]
    exact .crowded (hbefore h) desc data handle hfull he

/-- The fault of a step goes on to be the fault of what the step is part of. -/
theorem rethrow {e : E} {e' : E'} (h : Proceeds R blame s events (.error e : Except E T) t)
    (he : blame' e' = blame e) :
    Proceeds R blame' s events (.error e' : Except E' U) t := by
  cases h with
  | orderly h => exact .orderly h _
  | crowded h desc data handle hfull hblame =>
    exact .crowded h desc data handle hfull (he.trans hblame)

/-- One step after another proceeds if both do, the second from where the first comes to. -/
theorem bind {x : Step H E T} {f : T → Step H E U} {r : Except E U}
    (hR : ∀ {s events t}, R s events t → R' s events t)
    (htrans : ∀ {s events t events' u}, R s events t → R' t events' u → R' s (events ++ events') u)
    (h : (x >>= f).Runs s events r u)
    (hx : ∀ {before r t}, x.Runs s before r t → Proceeds R blame s before r t)
    (hf : ∀ {before a t rest}, x.Runs s before (.ok a) t → (f a).Runs t rest r u →
      Proceeds R' blame t rest r u) :
    Proceeds R' blame s events r u := by
  obtain ⟨before, a, t, rest, hrun, hrest, rfl⟩ | ⟨e, hrun, rfl⟩ := Step.runs_bind_iff.mp h
  · -- The first step came to a value, so it met no full registry.
    exact (hf hrun hrest).after (htrans (hx hrun).of_ok)
  · exact ((hx hrun).mono hR).rethrow rfl

end Proceeds

end Proceeds

end ShaderConformance
