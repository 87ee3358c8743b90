import ShaderConformance.Proofs.FileActs

/-!
# Nothing stale reaches a backend

A backend is used only while no last creation failed and every stored source stands next
to the shader that was compiled of it.  The session remembers the failures and the model
of each last compile; this file relates what it remembers to what has happened.

## Main definitions

- `lastAttempt`: the success of the last creation of a resource
- `IsCurrent`: what a use of the backend relies on
- `Tracked`: the session remembers what has happened

## Main statements

- `tracks_act`: the acts of a run keep the session in step with what has happened
- `usesCurrent_of_runs`: every use of the backend is current
-/

namespace ShaderConformance

variable {H : Type}

/-! ## Uses and creations -/

/-- Whether a request uses resources or shaders. -/
def Request.isUse : Request H → Bool
  | .clear _ _ | .draw _ _ _ _ | .dispatch _ _ _ _ | .copy _ _ | .readback _ _ => true
  | .create _ _ | .destroy _ | .compile _ _ _ _ | .preprocess _ | .log _ => false

/-- What a request draws or dispatches with. -/
def Request.renderState? : Request H → Option (RenderState H)
  | .draw state _ _ _ => some state
  | .dispatch state _ _ _ => some state
  | _ => none

namespace Event

/-- Whether the backend is used at an event. -/
def isUse (event : Event H) : Bool :=
  match event.question.deed with
  | .request q => q.isUse
  | .note _ => false

/-- What is drawn or dispatched with at an event. -/
def renderState? (event : Event H) : Option (RenderState H) :=
  match event.question.deed with
  | .request q => q.renderState?
  | .note _ => none

/-- Whether a resource was created at an event, if its creation was tried. -/
def attempt? (ref : ResourceRef) : Event H → Option Bool
  | ⟨⟨_, .request (.create desc _)⟩, answer⟩ =>
    if desc.ref = ref then some (Except.isOk answer) else none
  | _ => none

end Event

/-- Whether the last try to create a resource succeeded. -/
def lastAttempt (ref : ResourceRef) (events : List (Event H)) : Option Bool :=
  (events.filterMap (Event.attempt? ref)).getLast?

theorem lastAttempt_append (ref : ResourceRef) (events events' : List (Event H)) :
    lastAttempt ref (events ++ events') =
      (lastAttempt ref events').or (lastAttempt ref events) := by
  rw [lastAttempt, List.filterMap_append, List.getLast?_append]
  rfl

/-- A compile of a source gave a shader. -/
def CompiledTo (events : List (Event H)) (source : ShaderSource) (type : ShaderType)
    (model : ShaderModel) (options : CompileOptions) (compiled : CompiledShader) : Prop :=
  ∃ session, (⟨⟨session, .request (.compile source type model options)⟩, .ok compiled⟩ :
    Event H) ∈ events

/-- No last creation failed, and each stage has the shader that its source was compiled to for
    the lowest model and the options of the session, or no shader without a source. -/
structure IsCurrent (before : List (Event H)) (s : Session H) : Prop where
  created : ∀ ref, lastAttempt ref before ≠ some false
  absent : ∀ type, (s.stage type).source = none → s.renderState.shader type = none
  compiled : ∀ type source, (s.stage type).source = some source →
    ∃ compiled, s.renderState.shader type = some compiled ∧
      CompiledTo before source type s.minimumModel s.options compiled

/-- What holds of an event at which the backend is used. -/
def UsesCurrent (before : List (Event H)) (event : Event H) : Prop :=
  event.isUse = true → IsCurrent before event.question.session ∧
    ∀ state, event.renderState? = some state → state = event.question.session.renderState

/-! ## What a session remembers -/

/-- A compile for the model that a stage remembers either failed or gave the shader of the
    stage. -/
def StageTracked (history : List (Event H)) (options : CompileOptions) (type : ShaderType)
    (stage : Stage) : Prop :=
  (stage.source = none → stage.compiled = none) ∧
    ∀ source model, stage.source = some source → stage.compiledAt = some model →
      stage.compiled = none ∧ stage.failed = true ∨
        ∃ compiled, stage.compiled = some compiled ∧
          CompiledTo history source type model options compiled

/-- A session remembers the creations that failed and the compiles of its sources, and was
    ready whenever the backend was used. -/
structure Tracked (history : List (Event H)) (s : Session H) : Prop where
  failed : ∀ ref, lastAttempt ref history = some false → ref ∈ s.registry.failed
  stages : ∀ type, StageTracked history s.options type (s.stage type)
  uses : Throughout UsesCurrent history

namespace Tracked

variable {history events : List (Event H)} {event : Event H} {s s' : Session H}

/-- What a ready session remembers is current. -/
theorem isCurrent (h : Tracked history s) (hready : s.IsReady) : IsCurrent history s where
  created ref hfailed := by
    -- A failure would be among those of the registry, which has none.
    have hmem := h.failed ref hfailed
    rw [Registry.hasFailures_eq_false_iff.mp hready.created] at hmem
    exact absurd hmem List.not_mem_nil
  absent type hsource := (h.stages type).1 hsource
  compiled type source hsource := by
    -- A fresh stage with a source was compiled for the lowest model.
    have hat : (s.stage type).compiledAt = some s.minimumModel := by
      simpa [Session.IsFresh, Stage.isStale, hsource] using hready.fresh type
    have hcompiled : (s.stage type).failed = false := by
      have hnone := List.any_eq_false.mp hready.compiled type (by cases type <;> decide)
      simpa [Stage.isFailed, hsource] using hnone
    -- That compile did not fail, so it gave the shader of the stage.
    obtain ⟨-, hfailed⟩ | hok := (h.stages type).2 source _ hsource hat
    · rw [hcompiled] at hfailed
      cases hfailed
    · exact hok

/-- More events leave a compile where it was. -/
theorem stageTracked_append {options : CompileOptions} {type : ShaderType} {stage : Stage}
    (h : StageTracked history options type stage) (events : List (Event H)) :
    StageTracked (history ++ events) options type stage := by
  -- A compile that was among the events before still is.
  refine ⟨h.1, fun source model hsource hat => (h.2 source model hsource hat).imp_right ?_⟩
  rintro ⟨compiled, hcompiled, session, hmem⟩
  exact ⟨compiled, hcompiled, session, List.mem_append_left events hmem⟩

/-- An event that creates nothing, at which the backend is not used out of turn. -/
theorem snoc (h : Tracked history s) (hattempt : ∀ ref, event.attempt? ref = none)
    (huse : UsesCurrent history event) : Tracked (history ++ [event]) s where
  failed ref hfailed := by
    refine h.failed ref ?_
    simpa [lastAttempt, hattempt] using hfailed
  stages type := stageTracked_append (h.stages type) [event]
  uses := h.uses.snoc huse

/-- An event at which the backend is not used. -/
theorem aside (h : Tracked history s) (hattempt : ∀ ref, event.attempt? ref = none)
    (huse : event.isUse = false) : Tracked (history ++ [event]) s :=
  h.snoc hattempt fun htrue => by
    rw [huse] at htrue
    cases htrue

/-- A use of the backend by a ready session. -/
theorem use (h : Tracked history s) (hready : s.IsReady)
    (hattempt : ∀ ref, event.attempt? ref = none) (hsession : event.question.session = s)
    (hstate : event.renderState? = none ∨ event.renderState? = some s.renderState) :
    Tracked (history ++ [event]) s := by
  refine h.snoc hattempt fun _ => ?_
  rw [hsession]
  refine ⟨h.isCurrent hready, fun state hrendered => ?_⟩
  obtain hnone | hsome := hstate
  · rw [hnone] at hrendered
    cases hrendered
  · rw [hsome] at hrendered
    exact (Option.some.inj hrendered).symm

/-- Only the failures, the options and the stages of a session are tracked. -/
theorem of_eq (h : Tracked history s) (hfailed : s'.registry.failed = s.registry.failed)
    (hoptions : s'.options = s.options) (hstage : s'.stage = s.stage) : Tracked history s' where
  failed ref hattempt := by
    rw [hfailed]
    exact h.failed ref hattempt
  stages type := by
    rw [hoptions, hstage]
    exact h.stages type
  uses := h.uses

/-- A try to create a resource, after which the registry knows how it went. -/
theorem attempt (h : Tracked history s) {desc : ResourceDesc} {data : List UInt8}
    {answer : Except BackendError H} (registry : Registry H)
    (hsame : ∀ ref ≠ desc.ref, ref ∈ s.registry.failed → ref ∈ registry.failed)
    (hanswer : answer.isOk = false → desc.ref ∈ registry.failed) :
    Tracked (history ++ [⟨⟨s, .request (.create desc data)⟩, answer⟩]) { s with registry } where
  failed ref hfailed := by
    rw [lastAttempt_append] at hfailed
    by_cases href : desc.ref = ref
    · -- This try is the last one for its own name, and changes nothing for the others.
      have hlast : answer.isOk = false := by
        simpa [lastAttempt, Event.attempt?, href] using hfailed
      rw [← href]
      exact hanswer hlast
    · refine hsame ref (Ne.symm href) (h.failed ref ?_)
      simpa [lastAttempt, Event.attempt?, href] using hfailed
  stages type := stageTracked_append (h.stages type) _
  uses := h.uses.snoc fun huse => by cases huse

/-- A source that was not compiled yet. -/
theorem setSource (h : Tracked history s) (type : ShaderType) (source : ShaderSource) :
    Tracked history (s.setSource type source) where
  failed := h.failed
  stages type' := by
    by_cases htype : type' = type
    · -- The new source has no model, so there is nothing to remember of a compile.
      simp [StageTracked, Session.setSource, Session.setStage, htype, Stage.ofSource]
    · simpa [Session.setSource, Session.setStage, htype] using h.stages type'
  uses := h.uses

/-- A stage with the result of a compile of its source. -/
theorem setCompiled (h : Tracked history s) {type : ShaderType} {source : ShaderSource}
    {model : ShaderModel} {result : Except CompileError CompiledShader} {session : Session H}
    (hsource : (s.stage type).source = some source)
    (hcompile : (⟨⟨session, .request (.compile source type model s.options)⟩, result⟩ :
      Event H) ∈ history) :
    Tracked history (s.setCompiled type model result.toOption) where
  failed := h.failed
  stages type' := by
    by_cases htype : type' = type
    · -- The stage remembers this compile, of its own source.
      subst htype
      refine ⟨fun hnone => ?_, fun source' model' hsource' hmodel' => ?_⟩
      · simp [Session.setCompiled, Session.setStage, Stage.withCompiled, hsource] at hnone
      · simp only [Session.setCompiled, Session.setStage, Stage.withCompiled, if_true]
          at hsource' hmodel' ⊢
        rw [hsource] at hsource'
        cases hsource'
        cases hmodel'
        cases result with
        | ok compiled => exact .inr ⟨compiled, rfl, session, hcompile⟩
        | error error => exact .inl ⟨rfl, rfl⟩
    · simpa [Session.setCompiled, Session.setStage, htype] using h.stages type'
  uses := h.uses

/-- Requirements make every stage forget its model. -/
theorem underRequirements (h : Tracked history s) (r : Requirements) :
    Tracked history (Step.underRequirements s r) where
  failed := h.failed
  stages type := ⟨(h.stages type).1, fun _ _ _ hat => by cases hat⟩
  uses := h.uses

end Tracked

/-! ## Runs remember what has happened -/

section Runs

variable {context : RunContext} {turn : Option Turn} {events : List (Event H)}

/-- What a run keeps: its session remembers what has happened. -/
def TracksState (history : List (Event H)) (s : RunState H) : Prop := Tracked history s.session

/-- A remark compiles nothing. -/
theorem tracks_remark : Keeps TracksState (Remark (H := H) turn) := by
  intro s events t h history htracked
  have haside {event : Event H} (hattempt : ∀ ref, event.attempt? ref = none)
      (huse : event.isUse = false) : TracksState (history ++ [event]) s :=
    Tracked.aside htracked hattempt huse
  cases h with
  | log | check | skip => exact haside (fun _ => rfl) rfl

/-- A move stores what it compiled. -/
theorem tracks_move : Keeps TracksState (Move (H := H) context turn) := by
  intro s events t h history htracked
  have haside {event : Event H} (hattempt : ∀ ref, event.attempt? ref = none)
      (huse : event.isUse = false) : Tracked (history ++ [event]) s.session :=
    Tracked.aside htracked hattempt huse
  cases h with
  | remark h => exact tracks_remark h history htracked
  | settings =>
    rw [List.append_nil]
    exact Tracked.of_eq htracked rfl rfl rfl
  | sampler sampler =>
    rw [List.append_nil]
    exact Tracked.of_eq htracked (Registry.failed_setSampler _ sampler) rfl rfl
  | require hturn =>
    rw [List.append_nil]
    exact Tracked.underRequirements htracked _
  | halt | resume =>
    rw [List.append_nil]
    exact Tracked.of_eq htracked rfl rfl rfl
  | store hturn hkept => exact (haside (fun _ => rfl) rfl).setSource _ _
  | @refuse t reports header text line hturn haccepts hreport reason =>
    -- Store, reports and the end of the tests, one after another.
    have hstore : Tracked (history ++ [s.noted (.store header.type ⟨text, header.format⟩)])
        s.session := haside (fun _ => rfl) rfl
    have hreports := tracks_remark.chain hreport _
      (hstore.setSource header.type ⟨text, header.format⟩)
    rw [List.append_cons]
    exact Tracked.of_eq hreports rfl rfl rfl
  | variant | preprocessed => exact haside (fun _ => rfl) rfl
  | @compiled t reports type source hturn haction hsource result hreport =>
    have hcompile : TracksState (history ++ [s.asked (.compile source type
        s.session.minimumModel s.session.options) result]) s := haside (fun _ => rfl) rfl
    -- The reports between the compile and its result leave the session as it was.
    have hreports := tracks_remark.chain hreport _ hcompile
    rw [TracksState, Step.session_of_remarks hreport] at hreports
    rw [TracksState, RunState.session_update, Step.session_of_remarks hreport, List.append_cons]
    exact hreports.setCompiled hsource
      (List.mem_append_left _ (List.mem_append_right _ (List.mem_singleton_self _)))
  | quad hturn hquad haction result =>
    -- The vertex shader is compiled before it is stored, so its compile is among the events.
    have hcompile : Tracked (history ++ [s.asked (.compile (Step.quadShader s.session) .vertex
        s.session.minimumModel s.session.options) result]) s.session := haside (fun _ => rfl) rfl
    have hstore : Tracked (history ++ [s.asked (.compile (Step.quadShader s.session) .vertex
        s.session.minimumModel s.session.options) result] ++
          [s.noted (.store .vertex (Step.quadShader s.session))]) s.session :=
      hcompile.aside (fun _ => rfl) rfl
    rw [TracksState, RunState.session_update, List.append_cons]
    have hsource :
        ((s.session.setSource .vertex (Step.quadShader s.session)).stage .vertex).source =
          some (Step.quadShader s.session) := by
      simp [Session.setSource, Session.setStage, Stage.ofSource]
    exact (hstore.setSource .vertex _).setCompiled hsource
      (List.mem_append_left _ (List.mem_append_right _ (List.mem_singleton_self _)))
  | @created desc handle replaced registry hturn haction data h =>
    -- The failure of an earlier try is cleared, those of other names stay.
    have hfailed := (Registry.insert_ok h).1
    have hcreate : Tracked (history ++ [s.asked (.create desc data) (.ok handle)])
        (s.withRegistry fun _ => registry).session := by
      refine Tracked.attempt htracked registry (fun ref href hmem => ?_) fun hok => by cases hok
      rw [hfailed]
      exact Registry.mem_failed_clearFailed.mpr ⟨href, hmem⟩
    -- What may be destroyed next is no use of the backend.
    rw [List.append_cons]
    cases replaced with
    | none =>
      rw [Option.toList_none, List.map_nil, List.append_nil]
      exact hcreate
    | some old => exact hcreate.aside (fun _ => rfl) rfl
  | notCreated desc hturn haction data error =>
    refine Tracked.attempt htracked _ (fun ref href hmem => ?_) fun _ => ?_
    · exact Registry.mem_failed_markFailed.mpr (.inr hmem)
    · exact Registry.mem_failed_markFailed.mpr (.inl rfl)

/-- The end of a file compiles nothing. -/
theorem tracks_teardown {history : List (Event H)} {s : RunState H} (h : TracksState history s) :
    TracksState (history ++ s.teardownEvents) s.emptied := by
  -- Nothing tracked changes when the registry is emptied, nor at any destruction.
  have hemptied : TracksState history s.emptied := Tracked.of_eq h rfl rfl rfl
  refine holds_append (J := (TracksState · s.emptied)) hemptied fun history h event hevent => ?_
  obtain ⟨resource, -, rfl⟩ := List.mem_map.mp hevent
  exact Tracked.aside h (fun _ => rfl) rfl

/-- An act stores what it compiled. -/
theorem tracks_act :
    Keeps (fun history p => TracksState history p.2) (Act (H := H) context) := by
  rintro p events q h history htracked
  have haside {s : RunState H} {event : Event H} {history : List (Event H)}
      (h : TracksState history s) (hattempt : ∀ ref, event.attempt? ref = none)
      (huse : event.isUse = false) : TracksState (history ++ [event]) s :=
    Tracked.aside h hattempt huse
  have hexecute (s : RunState H) (htracked : TracksState history s) (line : Nat)
      (test : TestLine) :
      TracksState (history ++ [s.noted (.turn (.execute line test))]) s :=
    haside htracked (fun _ => rfl) rfl
  cases h with
  | move h => exact tracks_move h history htracked
  | close | read | execute => exact haside htracked (fun _ => rfl) rfl
  | clear s hready | copy s hready | readback s hready =>
    exact Tracked.use htracked hready (fun _ => rfl) rfl (.inl rfl)
  | @dispatch s line test x y z hready | @draw s line test topology vertices instances hready =>
    rw [List.append_cons]
    exact (Tracked.use (hexecute s htracked line test) hready (fun _ => rfl) rfl
      (.inr rfl)).of_eq rfl rfl rfl
  | @quad s t made line test hready haction hcommand hmade hready' haction' ok =>
    -- The draw comes after the making of the parts, in the session that they leave.
    have hparts := tracks_move.chain hmade _ (hexecute s htracked line test)
    rw [List.append_cons, ← List.append_assoc]
    exact (Tracked.use hparts hready' (fun _ => rfl) rfl (.inr rfl)).of_eq rfl rfl rfl
  | @quadGivenUp s t made line test hready haction hcommand hmade =>
    rw [List.append_cons]
    exact tracks_move.chain hmade _ (hexecute s htracked line test)
  | teardown turn s => exact tracks_teardown htracked

/-- At the start nothing was compiled. -/
theorem tracked_start (context : RunContext) :
    TracksState [] (RunState.start (H := H) context) where
  failed ref h := by cases h
  stages type := ⟨fun _ => rfl, fun source model hsource => by cases hsource⟩
  uses := .nil

/-- Whatever a file says and however a backend and a compiler answer, the backend is used
    only while no last creation failed, and with the shaders that the stored sources compile
    to. -/
theorem usesCurrent_of_runs {text : Text} {result : RunResult}
    (h : (runFile H context text).Runs events result) : Throughout UsesCurrent events := by
  refine (finishes_of_runs h).throughout tracks_act (tracked_start context)
    (fun htracked => htracked.uses) ?_ ?_
  · intro before s desc data handle huse
    cases huse
  · intro before s resource huse
    cases huse

/-- A file that compiles a shader again for stricter requirements. -/
def stricter : Text :=
  ("[pixel shader]\nbody\n[require]\nshader model >= 4.0\n" ++
    "[test]\ndraw quad\nclear rtv 0 0.0 0.0 0.0 0.0\n").toList

/-- A file that raises its lowest model between two draws. -/
theorem usesCurrent_stricter :
    Throughout UsesCurrent (journalEvents .willing none ⟨"stricter", .run, .plain⟩ stricter) ∧
      (journalEvents .willing none ⟨"stricter", .run, .plain⟩ stricter).countP Event.isUse = 2 :=
  ⟨usesCurrent_of_runs (runs_journalEvents _ _ _ _), by decide +kernel⟩

end Runs

end ShaderConformance
