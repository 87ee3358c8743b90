import ShaderConformance.Proofs.FileActs

/-!
# Which sources are compiled

The formats that are accepted are those of shader blocks.  The vertex shader of a quad
belongs to the run itself: it is compiled whatever formats are accepted.

## Main definitions

- `MayCompile`: what is compiled at each turn of a run
- `Held`: a source that was stored although it was not accepted waits for requirements
  that are met

## Main statements

- `compilesAccepted_of_runs`: the compiles of a run, turn by turn
- `exists_quad_not_accepted`: a quad is compiled in a format that is not accepted
-/

namespace ShaderConformance

variable {H : Type}

/-! ## Compiles -/

namespace Event

/-- The source that is compiled at an event, and its stage. -/
def compile? (event : Event H) : Option (ShaderSource × ShaderType) :=
  match event.question.deed with
  | .request (.compile source type _ _) => some (source, type)
  | _ => none

/-- The source that is stored at an event, and its stage. -/
def stored? (event : Event H) : Option (ShaderSource × ShaderType) :=
  match event.question.deed with
  | .note (.store type source) => some (source, type)
  | _ => none

end Event

/-- The vertex shaders of quads. -/
def quadShaders : List ShaderSource := [Step.quadShaderHlsl, Step.quadShaderWgsl]

/-- The shader of a quad is one of two. -/
theorem quadShader_mem_quadShaders (s : Session H) : Step.quadShader s ∈ quadShaders := by
  rw [Step.quadShader]
  split
  · exact List.mem_cons_of_mem _ (List.mem_singleton_self _)
  · exact List.mem_cons_self

/-- Whether a run turns to the end of a block whose requirements are all met. -/
def Turn.resumes (context : RunContext) : Turn → Bool
  | .close (.require block) _ => (block.evaluate context.caps).skipReason?.isNone
  | _ => false

/-- After a stage was given a source, a block ended whose requirements are all met. -/
def Resumed (context : RunContext) (history : List (Event H)) (source : ShaderSource)
    (type : ShaderType) : Prop :=
  ∃ before after, history = before ++ after ∧
    (∃ event ∈ before, event.stored? = some (source, type)) ∧
      ∃ event ∈ after, event.turn?.any (Turn.resumes context) = true

/-- What a run may have compiled at a turn: at the end of a shader block its own source, if its
    format is accepted; at a test line what is stored; for a quad the vertex shader of quads. -/
def MayCompile (context : RunContext) (before : List (Event H)) (s : Session H)
    (source : ShaderSource) (type : ShaderType) : Option Turn → Prop
  | some (.close (.shader header text) _) =>
    source = ⟨text, header.format⟩ ∧ type = header.type ∧
      context.caps.accepts source.format = true
  | some (.read _ _) =>
    context.mode = .run ∧ (s.stage type).source = some source ∧
      (context.caps.accepts source.format = true ∨ type = .vertex ∧ source ∈ quadShaders ∨
        Resumed context before source type)
  | some (.execute _ test) =>
    context.mode = .run ∧ test.command = .drawQuad ∧ source = Step.quadShader s ∧ type = .vertex
  | _ => False

/-- What is compiled at an event may be compiled at the last turn before it. -/
def CompilesAccepted (context : RunContext) (before : List (Event H)) (event : Event H) : Prop :=
  ∀ source type, event.compile? = some (source, type) →
    MayCompile context before event.question.session source type (turnOf before)

/-! ## Stored sources -/

/-- A source that was stored by a block is not compiled at test lines before a block ends whose
    requirements are all met. -/
def Held (context : RunContext) (turn : Option Turn) (history : List (Event H))
    (action : TestAction) (source : ShaderSource) (type : ShaderType) : Prop :=
  ∃ before after, history = before ++ after ∧
    (∃ event ∈ before, event.stored? = some (source, type)) ∧
      (action = .run ∨ turn.any (Turn.resumes context) = true →
        ∃ event ∈ after, event.turn?.any (Turn.resumes context) = true)

/-- A held source goes on to be held while more happens, unless tests are executed again. -/
theorem Held.extend {context : RunContext} {turn turn' : Option Turn} {history : List (Event H)}
    {action action' : TestAction} {source : ShaderSource} {type : ShaderType}
    (h : Held context turn history action source type) (events : List (Event H))
    (hactive : action' = .run ∨ turn'.any (Turn.resumes context) = true →
      (action = .run ∨ turn.any (Turn.resumes context) = true) ∨
        ∃ event ∈ events, event.turn?.any (Turn.resumes context) = true) :
    Held context turn' (history ++ events) action' source type := by
  -- The source was stored where it was, and what has happened since grows.
  obtain ⟨before, after, rfl, hstored, hresumed⟩ := h
  refine ⟨before, after ++ events, List.append_assoc _ _ _, hstored, fun h => ?_⟩
  obtain hbefore | ⟨event, hmem, hresumes⟩ := hactive h
  · obtain ⟨event, hmem, hresumes⟩ := hresumed hbefore
    exact ⟨event, List.mem_append_left _ hmem, hresumes⟩
  · exact ⟨event, List.mem_append_right _ hmem, hresumes⟩

/-- Stored sources are accepted, belong to quads, or are held. -/
structure FormatsTracked (context : RunContext) (turn : Option Turn) (history : List (Event H))
    (s : Session H) : Prop where
  turn_eq : turnOf history = turn
  mode : s.action = .run → context.mode = .run
  sources : ∀ type source, (s.stage type).source = some source →
    context.caps.accepts source.format = true ∨ type = .vertex ∧ source ∈ quadShaders ∨
      Held context turn history s.action source type
  compiles : Throughout (CompilesAccepted context) history

namespace FormatsTracked

variable {context : RunContext} {turn : Option Turn} {history events : List (Event H)}
  {event : Event H} {s s' : Session H}

/-- An event at which a run takes no turn and compiles what it may. -/
theorem snoc (h : FormatsTracked context turn history s) (hturn : event.turn? = none)
    (hcompile : CompilesAccepted context history event) :
    FormatsTracked context turn (history ++ [event]) s where
  turn_eq := (turnOf_concat_of_none hturn history).trans h.turn_eq
  mode := h.mode
  sources type source hsource := by
    refine (h.sources type source hsource).imp_right (Or.imp_right fun hheld => ?_)
    exact hheld.extend [event] .inl
  compiles := h.compiles.snoc hcompile

/-- An event at which a run neither takes a turn nor compiles. -/
theorem aside (h : FormatsTracked context turn history s) (hturn : event.turn? = none)
    (hnone : event.compile? = none) : FormatsTracked context turn (history ++ [event]) s :=
  h.snoc hturn fun source type hsome => by
    rw [hnone] at hsome
    cases hsome

/-- Events that neither take a turn nor compile leave what is tracked. -/
theorem asides (h : FormatsTracked context turn history s)
    (hevents : ∀ event ∈ events, event.turn? = none ∧ event.compile? = none) :
    FormatsTracked context turn (history ++ events) s := by
  refine holds_append (J := (FormatsTracked context turn · s)) h fun history h event hevent => ?_
  obtain ⟨hturn, hnone⟩ := hevents event hevent
  exact h.aside hturn hnone

/-- A turn that a run takes. -/
theorem turnTo (h : FormatsTracked context turn history s) {turn' : Turn}
    (hturn : event.turn? = some turn') (hnone : event.compile? = none) :
    FormatsTracked context (some turn') (history ++ [event]) s where
  turn_eq := turnOf_concat_turn hturn history
  mode := h.mode
  sources type source hsource := by
    refine (h.sources type source hsource).imp_right (Or.imp_right fun hheld => ?_)
    refine hheld.extend [event] fun hactive => ?_
    obtain haction | hresumes := hactive
    · exact .inl (.inl haction)
    · -- The turn itself is to the end of such a block.
      exact .inr ⟨event, List.mem_singleton_self _, by rwa [hturn]⟩
  compiles := h.compiles.snoc fun source type hsome => by
    rw [hnone] at hsome
    cases hsome

/-- Only the sources of stages matter, and whether tests are executed. -/
theorem of_eq (h : FormatsTracked context turn history s)
    (hsource : ∀ type, (s'.stage type).source = (s.stage type).source)
    (haction : s'.action = .run → s.action = .run) : FormatsTracked context turn history s' where
  turn_eq := h.turn_eq
  mode hrun := h.mode (haction hrun)
  sources type source hsome := by
    rw [hsource] at hsome
    refine (h.sources type source hsome).imp_right (Or.imp_right fun hheld => ?_)
    rw [← List.append_nil history]
    exact hheld.extend [] fun hactive => .inl (hactive.imp_left haction)
  compiles := h.compiles

/-- Tests are executed again at the end of a block whose requirements are all met. -/
theorem resume (h : FormatsTracked context turn history s)
    (hturn : turn.any (Turn.resumes context) = true) (hstage : s'.stage = s.stage)
    (haction : s'.action = context.mode.action) : FormatsTracked context turn history s' where
  turn_eq := h.turn_eq
  mode hrun := by
    rw [haction] at hrun
    cases hmode : context.mode with
    | run => rfl
    | compileOnly =>
      rw [hmode] at hrun
      cases hrun
  sources type source hsome := by
    rw [hstage] at hsome
    refine (h.sources type source hsome).imp_right (Or.imp_right fun hheld => ?_)
    -- The block was there before, whichever test action it brings.
    rw [← List.append_nil history]
    exact hheld.extend [] fun _ => .inl (.inr hturn)
  compiles := h.compiles

/-- A stage with another source, for which there is a reason. -/
theorem setSource (h : FormatsTracked context turn history s) {type : ShaderType}
    {source : ShaderSource}
    (hreason : context.caps.accepts source.format = true ∨
      type = .vertex ∧ source ∈ quadShaders ∨ Held context turn history s.action source type) :
    FormatsTracked context turn history (s.setSource type source) where
  turn_eq := h.turn_eq
  mode := h.mode
  sources type' source' hsome := by
    by_cases htype : type' = type
    · -- The stage has the new source and no other.
      subst htype
      obtain rfl : source = source' := by
        simpa [Session.setSource, Session.setStage, Stage.ofSource] using hsome
      exact hreason
    · refine h.sources type' source' ?_
      simpa [Session.setSource, Session.setStage, htype] using hsome
  compiles := h.compiles

end FormatsTracked

/-! ## Compiles of runs -/

section Runs

variable {context : RunContext} {turn : Option Turn} {events : List (Event H)}

/-- What is only reported is no turn and no compile. -/
theorem asides_of_remarks {s t : RunState H} (h : Chain (Remark turn) s events t) :
    ∀ event ∈ events, event.turn? = none ∧ event.compile? = none := by
  refine h.forall_mem fun hremark => ?_
  cases hremark with
  | log | check | skip => exact List.forall_mem_singleton.mpr ⟨rfl, rfl⟩

/-- A source that a block stores is held while no tests are executed. -/
theorem held_of_stored {history : List (Event H)} {action : TestAction} {header : ShaderHeader}
    {text : Text} {line : Nat} {source : ShaderSource} {type : ShaderType}
    (hturn : turn = some (.close (.shader header text) line)) (haction : action ≠ .run)
    (hstored : ∃ event ∈ history, event.stored? = some (source, type)) :
    Held context turn history action source type := by
  refine ⟨history, [], (List.append_nil _).symm, hstored, ?_⟩
  rintro (hrun | hresumes)
  · exact absurd hrun haction
  · -- The end of a shader block is not that of a require block.
    rw [hturn] at hresumes
    cases hresumes

/-- While tests are executed, a held source was resumed. -/
theorem resumed_of_held {history : List (Event H)} {source : ShaderSource} {type : ShaderType}
    (h : Held context turn history .run source type) : Resumed context history source type := by
  obtain ⟨before, after, hhistory, hstored, hresumed⟩ := h
  exact ⟨before, after, hhistory, hstored, hresumed (.inl rfl)⟩

/-- The stored source of a stage may be compiled at a test line. -/
theorem mayCompile_of_read {history : List (Event H)} {s : Session H} {source : ShaderSource}
    {type : ShaderType} {line : Nat} {test : TestLine}
    (h : FormatsTracked context turn history s) (haction : s.action = .run)
    (hsource : (s.stage type).source = some source) :
    MayCompile context history s source type (some (.read line test)) := by
  -- What is held was resumed by now, since test lines are executed.
  refine ⟨h.mode haction, hsource, (h.sources type source hsource).imp_right (Or.imp_right ?_)⟩
  rw [haction]
  exact resumed_of_held

/-- A move compiles what it may. -/
theorem formatsTracked_move :
    Keeps (fun history s => FormatsTracked context turn history s.session)
      (Move (H := H) context turn) := by
  intro s events t h history htracked
  -- The result of a compile leaves the sources of all stages where they are.
  have hsetCompiled {session : Session H} {type type' : ShaderType} {model : ShaderModel}
      {compiled : Option CompiledShader} :
      ((session.setCompiled type model compiled).stage type').source =
        (session.stage type').source := by
    by_cases htype : type' = type
    · simp [Session.setCompiled, Session.setStage, Stage.withCompiled, htype]
    · simp [Session.setCompiled, Session.setStage, htype]
  cases h with
  | remark h =>
    rw [Step.session_of_remarks (.single h)]
    exact htracked.asides (asides_of_remarks (.single h))
  | settings | sampler | require =>
    rw [List.append_nil]
    exact htracked.of_eq (fun _ => rfl) id
  | halt =>
    rw [List.append_nil]
    exact htracked.of_eq (fun _ => rfl) fun hrun => by cases hrun
  | resume hturn hmet =>
    rw [List.append_nil]
    exact htracked.resume (by simp [hturn, Turn.resumes, hmet]) rfl rfl
  | @store header text line hturn hkept =>
    have hstore : FormatsTracked context turn
        (history ++ [s.noted (.store header.type ⟨text, header.format⟩)]) s.session :=
      htracked.aside rfl rfl
    -- An accepted source needs no other reason; a kept one is held while no tests are executed.
    refine hstore.setSource (hkept.imp_right fun haction => .inr ?_)
    exact held_of_stored hturn haction
      ⟨_, List.mem_append_right _ (List.mem_singleton_self _), rfl⟩
  | @refuse t reports header text line hturn haccepts hreport reason =>
    have hstore : FormatsTracked context turn
        (history ++ [s.noted (.store header.type ⟨text, header.format⟩)]) s.session :=
      htracked.aside rfl rfl
    -- No test line is executed from here on, so the source may be held.
    have hhalted : FormatsTracked context turn
        (history ++ [s.noted (.store header.type ⟨text, header.format⟩)] ++ reports)
        { s.session with action := .skip, skipReason := some reason } :=
      (hstore.asides (asides_of_remarks hreport)).of_eq (fun _ => rfl) fun hrun => by cases hrun
    rw [RunState.session_update, Step.session_of_remarks hreport, List.append_cons]
    refine hhalted.setSource (.inr (.inr (held_of_stored hturn (fun hrun => by cases hrun) ?_)))
    exact ⟨_, List.mem_append_left _ (List.mem_append_right _ (List.mem_singleton_self _)), rfl⟩
  | @variant header text line hturn haction haccepts model result =>
    -- Variants are compiled at the end of the block of their source.
    refine htracked.snoc rfl fun source type hsome => ?_
    cases hsome
    rw [htracked.turn_eq, hturn]
    exact ⟨rfl, rfl, haccepts⟩
  | @compiled t reports type source hturn haction hsource result hreport =>
    -- The compile is at the end of the block of the source, or at a test line.
    have hcompile : FormatsTracked context turn (history ++ [s.asked (.compile source type
        s.session.minimumModel s.session.options) result]) s.session := by
      refine htracked.snoc rfl fun source' type' hsome => ?_
      cases hsome
      rw [htracked.turn_eq]
      obtain ⟨header, text, line, rfl, rfl, rfl, haccepts⟩ | ⟨line, test, rfl⟩ := hturn
      · exact ⟨rfl, rfl, haccepts⟩
      · exact mayCompile_of_read htracked haction hsource
    have hreports := hcompile.asides (asides_of_remarks hreport)
    rw [RunState.session_update, Step.session_of_remarks hreport, List.append_cons]
    exact hreports.of_eq (fun _ => hsetCompiled) id
  | @quad line test hturn hquad haction result =>
    -- A quad compiles its own shader and stores it, whatever formats are accepted.
    have hcompile : FormatsTracked context turn (history ++ [s.asked (.compile
        (Step.quadShader s.session) .vertex s.session.minimumModel s.session.options) result])
        s.session := by
      refine htracked.snoc rfl fun source type hsome => ?_
      cases hsome
      rw [htracked.turn_eq, hturn]
      exact ⟨htracked.mode haction, hquad, rfl, rfl⟩
    have hstore : FormatsTracked context turn (history ++ [s.asked (.compile
        (Step.quadShader s.session) .vertex s.session.minimumModel s.session.options) result] ++
          [s.noted (.store .vertex (Step.quadShader s.session))]) s.session :=
      hcompile.aside rfl rfl
    rw [RunState.session_update, List.append_cons]
    refine (hstore.setSource (.inr (.inl ⟨rfl, quadShader_mem_quadShaders s.session⟩))).of_eq
      (fun _ => hsetCompiled) id
  | preprocessed | notCreated =>
    exact (htracked.aside rfl rfl).of_eq (fun _ => rfl) id
  | created hturn haction data h =>
    refine (htracked.asides fun event hevent => ?_).of_eq (fun _ => rfl) id
    obtain rfl | hevent := List.mem_cons.mp hevent
    · exact ⟨rfl, rfl⟩
    · obtain ⟨old, -, rfl⟩ := List.mem_map.mp hevent
      exact ⟨rfl, rfl⟩

theorem formatsTracked_act :
    Keeps (fun history p => FormatsTracked context p.1 history p.2.session)
      (Act (H := H) context) := by
  rintro p events q h history htracked
  -- The turn to a line of a test stores no source.
  have hexecute {turn : Option Turn} {s : RunState H}
      (h : FormatsTracked context turn history s.session) (line : Nat) (test : TestLine) :
      FormatsTracked context (some (.execute line test))
        (history ++ [s.noted (.turn (.execute line test))]) s.session := h.turnTo rfl rfl
  cases h with
  | move h => exact formatsTracked_move h history htracked
  | close | read | execute => exact htracked.turnTo rfl rfl
  | clear | copy | readback => exact htracked.aside rfl rfl
  | dispatch | draw =>
    rw [List.append_cons]
    exact ((hexecute htracked _ _).aside rfl rfl).of_eq (fun _ => rfl) id
  | @quad s t made line test hready haction hcommand hmade hready' haction' ok =>
    have hparts := formatsTracked_move.chain hmade _ (hexecute htracked line test)
    rw [List.append_cons, ← List.append_assoc]
    exact (hparts.aside rfl rfl).of_eq (fun _ => rfl) id
  | @quadGivenUp s t made line test hready haction hcommand hmade =>
    rw [List.append_cons]
    exact formatsTracked_move.chain hmade _ (hexecute htracked line test)
  | teardown turn s =>
    refine (htracked.asides fun event hevent => ?_).of_eq (fun _ => rfl) id
    obtain ⟨resource, -, rfl⟩ := List.mem_map.mp hevent
    exact ⟨rfl, rfl⟩

/-- At the start no source is stored. -/
theorem formatsTracked_start (context : RunContext) :
    FormatsTracked context none [] (RunState.start (H := H) context).session where
  turn_eq := rfl
  mode hrun := by
    cases hmode : context.mode with
    | run => rfl
    | compileOnly =>
      rw [RunState.start, hmode] at hrun
      cases hrun
  sources type source hsome := by cases hsome
  compiles := .nil

/-- Whatever a file says and however a backend and a compiler answer, the compiler is asked
    for sources whose formats are accepted, and for the vertex shader of quads.  At test lines
    stored sources are compiled again, among which are such that a block stored without
    their being accepted, if tests were resumed since. -/
theorem compilesAccepted_of_runs {text : Text} {result : RunResult}
    (h : (runFile H context text).Runs events result) :
    Throughout (CompilesAccepted context) events := by
  refine (finishes_of_runs h).throughout formatsTracked_act (formatsTracked_start context)
    (fun htracked => htracked.compiles) ?_ ?_
  · intro before s desc data handle source type hsome
    cases hsome
  · intro before s resource source type hsome
    cases hsome

/-- A runner that accepts WGSL only. -/
def wgslRunner : RunContext := ⟨"quad", .run, { Capabilities.plain with sourceFormats := [.wgsl] }⟩

/-- A file that draws a quad for a pixel shader in WGSL, and again at a higher model. -/
def wgslQuads : Text :=
  ("[pixel shader wgsl]\nbody\n[test]\ndraw quad\n" ++
    "[require]\nshader model >= 5.0\n[test]\nsample mask 1\n").toList

/-- A file that draws with a language that is accepted. -/
theorem compilesAccepted_wgslQuads :
    Throughout (CompilesAccepted wgslRunner) (journalEvents .willing none wgslRunner wgslQuads) ∧
      (journalEvents .willing none wgslRunner wgslQuads).countP (·.compile?.isSome) = 4 :=
  ⟨compilesAccepted_of_runs (runs_journalEvents _ _ _ _), by decide +kernel⟩

/-- A quad without a pixel shader. -/
def plainQuad : Text := "[test]\ndraw quad\n".toList

/-- The vertex shader of a quad is compiled although its language is not accepted. -/
theorem exists_quad_not_accepted :
    ¬ ∀ (events : List (Event Nat)) (result : RunResult),
      (runFile Nat wgslRunner plainQuad).Runs events result →
        ∀ event ∈ events, ∀ source type, event.compile? = some (source, type) →
          wgslRunner.caps.accepts source.format = true := by
  intro haccepts
  -- The one compile of the run is for HLSL.
  have hcompiles : (journalEvents .willing none wgslRunner plainQuad).filterMap Event.compile? =
      [(Step.quadShaderHlsl, .vertex)] := by decide +kernel
  have hmem : (Step.quadShaderHlsl, ShaderType.vertex) ∈
      (journalEvents .willing none wgslRunner plainQuad).filterMap Event.compile? := by
    rw [hcompiles]
    exact List.mem_singleton_self _
  obtain ⟨event, hevent, hsome⟩ := List.mem_filterMap.mp hmem
  have haccepted := haccepts _ _ (runs_journalEvents .willing none wgslRunner plainQuad)
    event hevent _ _ hsome
  cases haccepted

end Runs

end ShaderConformance
