import ShaderConformance.Proofs.Step

/-!
# Runs in lockstep

Two runs whose backends give handles of different types are in lockstep while they ask their
compilers and logs the same and ask their backends nothing.  A run that only compiles is in
lockstep with one that has no handles at all.

## Main definitions

- `Lockstep`: two runs that differ in nothing but what they could ask a backend
- `Step.Mirrors`: a step without handles is in lockstep with one that has them

## Main statements

- `Lockstep.bind`, `Lockstep.join`: lockstep of runs one after another, and with a common run
- `Step.readAndTearDown_mirrors`: reading a file without executing tests
- `runFile_lockstep`: a run that only compiles, for any two types of handles
-/

namespace ShaderConformance

/-- Two runs ask their compilers and logs the same, and their backends nothing, and with the
    same answers they come to related values. -/
inductive Lockstep {H H' T T' : Type} (R : T → T' → Prop) : Run H T → Run H' T' → Prop
  | done {value : T} {value' : T'} (h : R value value') : Lockstep R (.done value) (.done value')
  | note (s : Session H) (s' : Session H') (n : Note) {next : Unit → Run H T}
      {next' : Unit → Run H' T'} (h : Lockstep R (next ()) (next' ())) :
      Lockstep R (.ask ⟨s, .note n⟩ next) (.ask ⟨s', .note n⟩ next')
  | log (s : Session H) (s' : Session H') (entry : LogEntry) {next : Unit → Run H T}
      {next' : Unit → Run H' T'} (h : Lockstep R (next ()) (next' ())) :
      Lockstep R (.ask ⟨s, .request (.log entry)⟩ next) (.ask ⟨s', .request (.log entry)⟩ next')
  | compile (s : Session H) (s' : Session H') (source : ShaderSource) (type : ShaderType)
      (model : ShaderModel) (options : CompileOptions)
      {next : Except CompileError CompiledShader → Run H T}
      {next' : Except CompileError CompiledShader → Run H' T'}
      (h : ∀ result, Lockstep R (next result) (next' result)) :
      Lockstep R (.ask ⟨s, .request (.compile source type model options)⟩ next)
        (.ask ⟨s', .request (.compile source type model options)⟩ next')
  | preprocess (s : Session H) (s' : Session H') (text : Text)
      {next : Except CompileError Text → Run H T} {next' : Except CompileError Text → Run H' T'}
      (h : ∀ result, Lockstep R (next result) (next' result)) :
      Lockstep R (.ask ⟨s, .request (.preprocess text)⟩ next)
        (.ask ⟨s', .request (.preprocess text)⟩ next')

namespace Lockstep

variable {H H' H₀ T T' T₀ U U' : Type} {R : T → T' → Prop} {Q : U → U' → Prop}

/-- Programs that go on in lockstep stay in lockstep. -/
theorem bind {d : Run H T} {d' : Run H' T'} {f : T → Run H U} {f' : T' → Run H' U'}
    (h : Lockstep R d d')
    (hf : ∀ {value value'}, R value value' → Lockstep Q (f value) (f' value')) :
    Lockstep Q (d.bind f) (d'.bind f') := by
  induction h with
  | done h => exact hf h
  | note s s' n _ ih => exact .note s s' n ih
  | log s s' entry _ ih => exact .log s s' entry ih
  | compile s s' source type model options _ ih => exact .compile s s' source type model options ih
  | preprocess s s' text _ ih => exact .preprocess s s' text ih

/-- Two runs that are in lockstep with a third one are in lockstep with each other. -/
theorem join {P : T₀ → T → Prop} {P' : T₀ → T' → Prop} {d₀ : Run H₀ T₀} {d : Run H T}
    {d' : Run H' T'} (h : Lockstep P d₀ d) (h' : Lockstep P' d₀ d') :
    Lockstep (fun value value' => ∃ value₀, P value₀ value ∧ P' value₀ value') d d' := by
  -- By induction on the first one; the third run asks the same in the second.
  induction h generalizing d' with
  | done h =>
    cases h' with
    | done h' => exact .done ⟨_, h, h'⟩
  | note _ s n _ ih =>
    cases h' with
    | note _ s' _ h' => exact .note s s' n (ih h')
  | log _ s entry _ ih =>
    cases h' with
    | log _ s' _ h' => exact .log s s' entry (ih h')
  | compile _ s source type model options _ ih =>
    cases h' with
    | compile _ s' _ _ _ _ h' =>
      exact .compile s s' source type model options fun result => ih result (h' result)
  | preprocess _ s text _ ih =>
    cases h' with
    | preprocess _ s' _ h' => exact .preprocess s s' text fun result => ih result (h' result)

theorem mono {Q : T → T' → Prop} {d : Run H T} {d' : Run H' T'} (h : Lockstep R d d')
    (hR : ∀ {value value'}, R value value' → Q value value') : Lockstep Q d d' := by
  have hbind : Lockstep Q (d.bind .done) (d'.bind .done) := h.bind fun hvalue => .done (hR hvalue)
  rwa [Dialogue.bind_done, Dialogue.bind_done] at hbind

end Lockstep

/-! ## States without handles -/

section Widen

variable (H : Type)

/-- A registry that can have no resources, as one that has none. -/
def Registry.widen (r : Registry Empty) : Registry H := ⟨[], r.samplers, r.failed⟩

/-- A session without handles, as one that has no resources. -/
def Session.widen (s : Session Empty) : Session H := { s with registry := s.registry.widen H }

/-- A state without handles, as one that has no resources. -/
def RunState.widen (s : RunState Empty) : RunState H := ⟨s.session.widen H, s.summary⟩

theorem Registry.resources_eq_nil (r : Registry Empty) : r.resources = [] :=
  List.eq_nil_iff_forall_not_mem.mpr fun resource _ => resource.handle.elim

/-- More handles leave the samplers as they are. -/
@[simp] theorem Registry.samplers_widen (r : Registry Empty) :
    (r.widen H).samplers = r.samplers := rfl

/-- A sampler is set in the same way with more handles. -/
theorem Registry.setSampler_widen (r : Registry Empty) (sampler : SamplerDesc) :
    (r.widen H).setSampler sampler =
      ((r.setSampler sampler).1, (r.setSampler sampler).2.widen H) := by
  simp only [setSampler, samplers_widen]
  split
  · rfl
  · -- Both registries have as many samplers.
    split
    · rename_i hfull
      exact if_pos hfull
    · rename_i hroom
      exact if_neg hroom

end Widen

namespace Step

variable {H E E' T U : Type}

/-- From every state without handles in which tests are not executed, a step goes in lockstep with
    another one that has handles, to the same result and such a state. -/
def Mirrors (x : Step Empty E T) (y : Step H E T) : Prop :=
  ∀ s : RunState Empty, s.session.action ≠ .run →
    Lockstep (fun p q => p.2.session.action ≠ .run ∧ q = (p.1, p.2.widen H))
      (x.run.run s) (y.run.run (s.widen H))

namespace Mirrors

/-- A value is the same with more handles. -/
theorem pure (a : T) : Mirrors (H := H) (E := E) (Pure.pure a) (Pure.pure a) :=
  fun _ hs => .done ⟨hs, rfl⟩

theorem refuse (fault : E) : Mirrors (H := H) (T := T) (refuse fault) (refuse fault) :=
  fun _ hs => .done ⟨hs, rfl⟩

theorem ofExcept (result : Except E T) : Mirrors (H := H) (ofExcept result) (ofExcept result) := by
  cases result with
  | ok value => exact .pure value
  | error fault => exact .refuse fault

/-- One step after another mirrors if both do. -/
theorem bind {x : Step Empty E T} {y : Step H E T} {f : T → Step Empty E U} {g : T → Step H E U}
    (h : Mirrors x y) (hf : ∀ a, Mirrors (f a) (g a)) : Mirrors (x >>= f) (y >>= g) := by
  intro s hs
  rw [run_bind, run_bind]
  -- The first steps come to the same result and to states of which one is the other widened.
  refine (h s hs).bind fun {p q} ⟨ht, hq⟩ => ?_
  subst hq
  obtain ⟨r, t⟩ := p
  cases r with
  | ok a => exact hf a t ht
  | error fault => exact .done ⟨ht, rfl⟩

/-- Outside of a run both sides look at the same session. -/
theorem session_bind {f : Session Empty → Step Empty E T} {g : Session H → Step H E T}
    (h : ∀ s, s.action ≠ .run → Mirrors (f s) (g (s.widen H))) :
    Mirrors (session >>= f) (session >>= g) :=
  fun s hs => h s.session hs s hs

/-- A change mirrors if it starts no run and is the same on both sides. -/
theorem modify {f : RunState Empty → RunState Empty} {g : RunState H → RunState H}
    (h : ∀ s, s.session.action ≠ .run →
      (f s).session.action ≠ .run ∧ g (s.widen H) = (f s).widen H) :
    Mirrors (E := E) (modify f) (modify g) := by
  intro s hs
  obtain ⟨ht, hg⟩ := h s hs
  refine .done ⟨ht, ?_⟩
  rw [hg]

theorem modifySession {f : Session Empty → Session Empty} {g : Session H → Session H}
    (h : ∀ s, s.action ≠ .run → (f s).action ≠ .run ∧ g (s.widen H) = (f s).widen H) :
    Mirrors (E := E) (modifySession f) (modifySession g) := by
  refine modify fun s hs => ?_
  obtain ⟨ht, hg⟩ := h s.session hs
  exact ⟨ht, congrArg (RunState.mk · s.summary) hg⟩

/-- A note is the same with more handles. -/
theorem note (n : Note) : Mirrors (H := H) (E := E) (note n) (note n) :=
  fun _ hs => .note _ _ n (.done ⟨hs, rfl⟩)

/-- A log entry names no handle. -/
theorem ask_log (entry : LogEntry) :
    Mirrors (H := H) (E := E) (ask (.log entry)) (ask (.log entry)) :=
  fun _ hs => .log _ _ entry (.done ⟨hs, rfl⟩)

theorem ask_preprocess (text : Text) :
    Mirrors (H := H) (E := E) (ask (.preprocess text)) (ask (.preprocess text)) :=
  fun _ hs => .preprocess _ _ text fun _ => .done ⟨hs, rfl⟩

theorem ask_compile (source : ShaderSource) (type : ShaderType) (model : ShaderModel)
    (options : CompileOptions) :
    Mirrors (H := H) (E := E) (ask (.compile source type model options))
      (ask (.compile source type model options)) :=
  fun _ hs => .compile _ _ source type model options fun _ => .done ⟨hs, rfl⟩

/-- Faults are named in the same way on both sides. -/
theorem mapFault (f : E → E') {x : Step Empty E T} {y : Step H E T} (h : Mirrors x y) :
    Mirrors (mapFault f x) (mapFault f y) := by
  intro s hs
  refine Lockstep.bind (h s hs) fun {p q} ⟨ht, hq⟩ => ?_
  subst hq
  exact .done ⟨ht, rfl⟩

/-- A fault is handled on both sides or on none. -/
theorem tryCatch {x : Step Empty E T} {y : Step H E T} {f : E → Step Empty E T}
    {g : E → Step H E T} (h : Mirrors x y) (hf : ∀ fault, Mirrors (f fault) (g fault)) :
    Mirrors (tryCatch x f) (tryCatch y g) := by
  intro s hs
  rw [run_tryCatch, run_tryCatch]
  refine (h s hs).bind fun {p q} ⟨ht, hq⟩ => ?_
  subst hq
  obtain ⟨r, t⟩ := p
  cases r with
  | ok a => exact .done ⟨ht, rfl⟩
  | error fault => exact hf fault t ht

theorem ite {p : Prop} [Decidable p] {x x' : Step Empty E T} {y y' : Step H E T}
    (h : Mirrors x y) (h' : Mirrors x' y') :
    Mirrors (if p then x else x') (if p then y else y') := by
  split
  · exact h
  · exact h'

end Mirrors

/-! ## Reports and shaders -/

section Shaders

variable {context : RunContext}

/-- What is logged is the same with more handles. -/
theorem log_mirrors (level : LogLevel) (text : String) :
    Mirrors (H := H) (E := E) (log level text) (log level text) := .ask_log _

theorem check_mirrors (c : Check) :
    Mirrors (H := H) (E := E) (check context c) (check context c) := by
  refine .bind (.note _) fun _ => .bind (.modify fun s hs => ⟨hs, rfl⟩) fun _ => ?_
  cases c.entry? context.file with
  | none => exact .pure _
  | some entry => exact .ask_log entry

theorem skip_mirrors (line : Nat) (reason : String) :
    Mirrors (H := H) (E := E) (skip context line reason) (skip context line reason) :=
  .bind (.note _) fun _ => .bind (.modify fun _ hs => ⟨hs, rfl⟩) fun _ => .ask_log _

theorem compile_mirrors (source : ShaderSource) (type : ShaderType) (model : ShaderModel) :
    Mirrors (H := H) (E := E) (compile source type model) (compile source type model) :=
  .session_bind fun s _ => .ask_compile source type model s.options

theorem checkCompile_mirrors (header : ShaderHeader) (model : ShaderModel)
    (result : Except CompileError CompiledShader) (line : Nat) :
    Mirrors (H := H) (E := E) (checkCompile context header model result line)
      (checkCompile context header model result line) := by
  cases result with
  | ok compiled => exact check_mirrors _
  | error error => exact .bind (log_mirrors _ _) fun _ => check_mirrors _

theorem compileVariants_mirrors (header : ShaderHeader) (source : ShaderSource) (line : Nat)
    (models : List ShaderModel) :
    Mirrors (H := H) (E := E) (compileVariants context header source line models)
      (compileVariants context header source line models) := by
  induction models with
  | nil => exact .pure _
  | cons model more ih =>
    exact .bind (compile_mirrors source header.type model) fun result =>
      .bind (checkCompile_mirrors header model result line) fun _ => ih

theorem compileBlock_mirrors (header : ShaderHeader) (source : ShaderSource) (line : Nat) :
    Mirrors (H := H) (E := E) (compileBlock context header source line)
      (compileBlock context header source line) :=
  .ite (.session_bind fun _ _ => compileVariants_mirrors header source line _) (skip_mirrors _ _)

/-- Outside of a run the end of a shader block only compiles. -/
theorem finishShader_mirrors (header : ShaderHeader) (text : Text) (line : Nat) :
    Mirrors (H := H) (E := E) (finishShader context header text line)
      (finishShader context header text line) := by
  refine .bind (.note _) fun _ => .bind (.modifySession fun _ hs => ⟨hs, rfl⟩) fun _ =>
    .session_bind fun s hs => ?_
  have hwiden : (s.widen H).action = s.action := rfl
  rw [hwiden]
  cases haction : s.action with
  | skip => exact .pure _
  | compile => exact compileBlock_mirrors header _ line
  -- Here the mode would matter, but tests are not executed.
  | run => exact absurd haction hs

/-- A skip is a change of the session alone. -/
theorem skipTests_mirrors (reason : String) :
    Mirrors (H := H) (E := E) (skipTests reason) (skipTests reason) :=
  .modifySession fun _ _ => ⟨nofun, rfl⟩

end Shaders

/-! ## Files -/

section Files

variable {context : RunContext} (hmode : context.mode = .compileOnly)

include hmode in
/-- Met requirements bring back what test blocks do in a run that only compiles. -/
theorem finishRequire_mirrors (block : RequireBlock) :
    Mirrors (H := H) (E := E) (finishRequire context block) (finishRequire context block) := by
  refine .bind (.modifySession fun _ hs => ⟨hs, rfl⟩) fun _ => ?_
  split
  · exact .bind (log_mirrors _ _) fun _ => skipTests_mirrors _
  · refine .modifySession fun _ _ => ⟨?_, rfl⟩
    rw [hmode]
    nofun

/-- The end of a preprocessor block needs no handle. -/
theorem finishPreproc_mirrors (text : Text) (refused : Bool) (line : Nat) :
    Mirrors (H := H) (E := E) (finishPreproc context text refused line)
      (finishPreproc context text refused line) := by
  refine .session_bind fun s _ => .ite (.bind (.ask_preprocess text) fun result => ?_) (.pure _)
  cases preprocCheck result refused line with
  | ok c => exact check_mirrors c
  | error reason => exact skip_mirrors _ _

include hmode in
/-- No resource is created in a run that only compiles. -/
theorem finishResource_mirrors (block : ResourceBlock) (line : Nat) :
    Mirrors (H := H) (finishResource context block line) (finishResource context block line) := by
  refine .bind (.ofExcept _) fun desc => .session_bind fun s _ => ?_
  rw [if_neg (by simp [hmode]), if_neg (by simp [hmode])]
  exact .pure _

/-- A sampler needs no handle. -/
theorem finishSampler_mirrors (sampler : SamplerDesc) :
    Mirrors (H := H) (finishSampler sampler) (finishSampler sampler) := by
  refine .session_bind fun s _ => ?_
  have hwiden : (s.widen H).registry = s.registry.widen H := rfl
  rw [hwiden, Registry.setSampler_widen]
  exact .bind (.modifySession fun _ hs => ⟨hs, rfl⟩) fun _ => .ofExcept _

/-- The end of a test block needs no handle. -/
theorem finishTest_mirrors (line : Nat) :
    Mirrors (H := H) (E := E) (finishTest context line) (finishTest context line) :=
  .session_bind fun _ _ => .ite (skip_mirrors _ _) (.pure _)

include hmode in
/-- Where shaders are only compiled, no block needs a handle at its end. -/
theorem finishBlock_mirrors (block : Block) (line : Nat) :
    Mirrors (H := H) (finishBlock context block line) (finishBlock context block line) := by
  refine .bind (.note _) fun _ => ?_
  cases block with
  | none | inputLayout => exact .pure _
  | test => exact finishTest_mirrors line
  | require block => exact finishRequire_mirrors hmode block
  | resource block => exact finishResource_mirrors hmode block line
  | sampler sampler => exact finishSampler_mirrors sampler
  | shader header text => exact finishShader_mirrors header text line
  | preproc refused text => exact finishPreproc_mirrors text refused line

/-- Nothing is done at a test line unless tests are executed. -/
theorem runTestLine_mirrors (text : Text) (line : Nat) :
    Mirrors (H := H) (runTestLine context text line) (runTestLine context text line) := by
  refine .session_bind fun s hs => ?_
  have hs' : ¬ (s.widen H).action = .run := hs
  rw [if_neg hs, if_neg hs']
  exact .pure _

/-- What a block takes is the same with more handles. -/
theorem taken_mirrors (make : T → Block) (result : T × Option Fault) :
    Mirrors (H := H) (taken make result) (taken make result) := by
  obtain ⟨value, fault⟩ := result
  cases fault with
  | none => exact .pure _
  | some fault => exact .refuse fault

theorem takeLine_mirrors (block : Block) (text : Text) (line : Nat) :
    Mirrors (H := H) (takeLine context block text line) (takeLine context block text line) := by
  cases block with
  | none => exact .refuse _
  | inputLayout =>
    exact .bind (.ofExcept _) fun _ => .bind (.modifySession fun _ hs => ⟨hs, rfl⟩) fun _ => .pure _
  | require block => exact taken_mirrors _ _
  | resource block => exact taken_mirrors _ _
  | sampler sampler => exact taken_mirrors _ _
  | test => exact .bind (runTestLine_mirrors text line) fun _ => .pure _
  | shader header text | preproc refused text => exact .pure _

theorem openBlock_mirrors (text : Text) :
    Mirrors (H := H) (openBlock context text) (openBlock context text) := by
  refine .bind (.session_bind fun _ _ => .pure _) fun _ => .bind (.ofExcept _) fun header => ?_
  cases Block.ofHeader header with
  | inputLayout => exact .bind (.modifySession fun _ hs => ⟨hs, rfl⟩) fun _ => .pure _
  | _ => exact .pure _

include hmode in
/-- A header ends a block and opens another one on both sides. -/
theorem headerLine_mirrors (current : OpenBlock) (text : Text) (line : Nat) :
    Mirrors (H := H) (headerLine context current text line)
      (headerLine context current text line) :=
  .bind (.mapFault _ (finishBlock_mirrors hmode current.block current.line)) fun _ =>
    .bind (.mapFault _ (openBlock_mirrors text)) fun _ =>
      .bind (log_mirrors _ _) fun _ => .pure _

theorem bodyLine_mirrors (current : OpenBlock) (text : Text) (line : Nat) :
    Mirrors (H := H) (bodyLine context current text line) (bodyLine context current text line) := by
  unfold bodyLine
  cases current.block.collect? text with
  | some block => exact .pure _
  | none =>
    exact .ite (.pure _) (.bind (log_mirrors _ _) fun _ =>
      .bind (.mapFault _ (takeLine_mirrors current.block text line)) fun _ => .pure _)

include hmode in
/-- The lines of a file are read in lockstep. -/
theorem readLines_mirrors (current : OpenBlock) (line : Nat) (lines : List Text) :
    Mirrors (H := H) (readLines context current line lines)
      (readLines context current line lines) := by
  induction lines generalizing current line with
  | nil => exact .mapFault _ (finishBlock_mirrors hmode current.block current.line)
  | cons text more ih =>
    exact .bind (.ite (headerLine_mirrors hmode current text line)
      (bodyLine_mirrors current text line)) fun next => ih next (line + 1)

/-- Where nothing was created, nothing is destroyed. -/
theorem teardown_mirrors : Mirrors (H := H) (E := E) teardown teardown := by
  refine .session_bind fun s _ => ?_
  -- Neither state has a resource to destroy.
  simp only [Registry.drain, Registry.resources_eq_nil]
  exact .bind (.modifySession fun _ hs => ⟨hs, rfl⟩) fun _ => .pure _

/-- A fault ends both sides in the same way. -/
theorem stop_mirrors (fault : LocatedFault) : Mirrors (H := H) (stop fault) (stop fault) :=
  .ite (.refuse fault) (.bind teardown_mirrors fun _ => .refuse fault)

include hmode in
/-- A whole file is read in lockstep. -/
theorem readAndTearDown_mirrors (text : Text) :
    Mirrors (H := H) (readAndTearDown context text) (readAndTearDown context text) :=
  .bind (.tryCatch (readLines_mirrors hmode _ _ _) stop_mirrors) fun _ => teardown_mirrors

end Files

end Step

/-- Two runs that only compile the same file are in lockstep, whatever the handles of their
    backends are. -/
theorem runFile_lockstep {H H' : Type} {context : RunContext} (hmode : context.mode = .compileOnly)
    (text : Text) :
    Lockstep (· = ·) (runFile H context text) (runFile H' context text) := by
  -- Each of them is in lockstep with the run without handles.
  have hwiden (H : Type) :
      Lockstep (· = ·) (runFile Empty context text) (runFile H context text) := by
    refine .log _ _ _ ((Step.readAndTearDown_mirrors hmode text _ ?_).bind fun {p q} ⟨_, hq⟩ => ?_)
    · change context.mode.action ≠ .run
      rw [hmode]
      nofun
    · subst hq
      obtain ⟨r, t⟩ := p
      cases r with
      | error fault => exact .done rfl
      | ok _ => exact .log _ _ _ (.done rfl)
  refine ((hwiden H).join (hwiden H')).mono ?_
  rintro value value' ⟨_, rfl, rfl⟩
  rfl

end ShaderConformance
