import ShaderConformance.Proofs.Moves

/-!
# The end of a block is a course of moves

## Main statements

- `createResource_inv`: the three ways in which a creation ends
- `finishBlock_proceeds`: what the end of a block does, in moves
-/

namespace ShaderConformance.Step

variable {H E : Type} {context : RunContext} {turn : Option Turn} {s s' : RunState H}
  {events : List (Event H)}

/-! ## Reports -/

/-- What is logged is a remark. -/
theorem log_inv (turn : Option Turn) {level : LogLevel} {text : String} {r : Except E Unit}
    (h : (log level text : Step H E Unit).Runs s events r s') :
    ∃ a, r = .ok a ∧ Chain (Remark turn) s events s' := by
  obtain ⟨a, rfl, hr, rfl⟩ := runs_ask_iff.mp h
  exact ⟨a, hr, .single (.log s' _)⟩

/-- A check is a remark. -/
theorem check_inv (turn : Option Turn) {c : Check} {r : Except E Unit}
    (hprobe : turn.any Turn.isProbe = true → s.session.lastRenderFailed = false)
    (h : (check context c : Step H E Unit).Runs s events r s') :
    ∃ a, r = .ok a ∧ Chain (Remark turn) s events s' := by
  rw [check] at h
  obtain ⟨rest, rfl, hrest⟩ := runs_note_bind_iff.mp h
  rw [runs_modify_bind_iff] at hrest
  cases hentry : c.entry? context.file with
  | none =>
    -- A plain pass is only counted.
    rw [hentry] at hrest
    obtain ⟨rfl, hr, rfl⟩ := runs_pure_iff.mp hrest
    exact ⟨(), hr, .single (.check s c hprobe)⟩
  | some entry =>
    rw [hentry] at hrest
    obtain ⟨a, rfl, hr, rfl⟩ := runs_ask_iff.mp hrest
    exact ⟨a, hr, .cons (.check s c hprobe) (.single (.log _ entry))⟩

/-- What is skipped is a remark. -/
theorem skip_inv (turn : Option Turn) {line : Nat} {reason : String} {r : Except E Unit}
    (h : (skip context line reason : Step H E Unit).Runs s events r s') :
    ∃ a, r = .ok a ∧ Chain (Remark turn) s events s' := by
  rw [skip] at h
  obtain ⟨rest, rfl, hrest⟩ := runs_note_bind_iff.mp h
  rw [runs_modify_bind_iff] at hrest
  obtain ⟨a, rfl, hr, rfl⟩ := runs_ask_iff.mp hrest
  exact ⟨a, hr, .cons (.skip s line reason) (.single (.log _ _))⟩

/-- Remarks leave the session as it is. -/
theorem session_of_remarks (h : Chain (Remark turn) s events s') : s'.session = s.session := by
  induction h with
  | refl => rfl
  | step first _ ih =>
    -- Each remark changes the summary at most.
    rw [ih]
    cases first <;> rfl

/-- Remarks are a course of any turn. -/
theorem course_of_remarks (h : Chain (Remark turn) s events s') : Course context turn s events s' :=
  h.mono .remark

/-! ## Shaders -/

/-- A compile is a single request. -/
theorem compile_inv {source : ShaderSource} {type : ShaderType} {model : ShaderModel}
    {r : Except E (Except CompileError CompiledShader)}
    (h : (compile source type model : Step H E _).Runs s events r s') :
    ∃ a, r = .ok a ∧ events = [s.asked (.compile source type model s.session.options) a] ∧
      s' = s := by
  rw [compile, runs_session_bind_iff] at h
  obtain ⟨a, rfl, hr, rfl⟩ := runs_ask_iff.mp h
  exact ⟨a, hr, rfl, rfl⟩

/-- What is reported of a compile are remarks. -/
theorem checkCompile_inv (turn : Option Turn) {header : ShaderHeader} {model : ShaderModel}
    {result : Except CompileError CompiledShader} {line : Nat} {r : Except E Unit}
    (hprobe : turn.any Turn.isProbe = true → s.session.lastRenderFailed = false)
    (h : (checkCompile context header model result line : Step H E Unit).Runs s events r s') :
    ∃ a, r = .ok a ∧ Chain (Remark turn) s events s' := by
  cases result with
  | ok compiled => exact check_inv turn hprobe h
  | error error =>
    -- The error is logged before the check.
    obtain ⟨before, _, t, after, hlog, hcheck, rfl⟩ := Runs.bind_inv h (log_inv turn)
    obtain ⟨a, hr, hreport⟩ :=
      check_inv turn (by rwa [session_of_remarks hlog]) hcheck
    exact ⟨a, hr, hlog.trans hreport⟩

/-- A block that is only compiled takes one compile after another. -/
theorem compileVariants_inv {header : ShaderHeader} {text : Text} {line closed : Nat}
    {models : List ShaderModel} {r : Except E Unit}
    (hturn : turn = some (.close (.shader header text) closed))
    (haction : s.session.action = .compile) (haccepts : context.caps.accepts header.format = true)
    (h : (compileVariants context header ⟨text, header.format⟩ line models :
      Step H E Unit).Runs s events r s') :
    ∃ a, r = .ok a ∧ Course context turn s events s' := by
  induction models generalizing s events with
  | nil =>
    obtain ⟨rfl, hr, rfl⟩ := runs_pure_iff.mp h
    exact ⟨(), hr, .refl s'⟩
  | cons model more ih =>
    -- The check of the first compile leaves the session to the other models as it was.
    obtain ⟨before, result, t, after, ⟨rfl, rfl⟩, hrest, rfl⟩ := Runs.bind_inv h compile_inv
    obtain ⟨before, _, u, after, hcheck, hmore, rfl⟩ :=
      Runs.bind_inv hrest (checkCompile_inv turn (by simp [hturn, Turn.isProbe]))
    obtain ⟨a, hr, hcourse⟩ := ih (by rw [session_of_remarks hcheck, haction]) hmore
    exact ⟨a, hr, .cons (.variant t hturn haction haccepts model result)
      ((course_of_remarks hcheck).trans hcourse)⟩

/-- What a kept compile result changes, with the reports between. -/
theorem setCompiled_course {type : ShaderType} {source : ShaderSource}
    {result : Except CompileError CompiledShader} {t : RunState H} {r : Except E Unit}
    (hturn : (∃ header text line, turn = some (.close (.shader header text) line) ∧
        header.type = type ∧ source = ⟨text, header.format⟩ ∧
        context.caps.accepts header.format = true) ∨
      ∃ line test, turn = some (.read line test))
    (haction : s.session.action = .run) (hsource : (s.session.stage type).source = some source)
    (hreport : Chain (Remark turn) s events t) {rest : List (Event H)}
    (h : (modifySession fun session =>
      session.setCompiled type s.session.minimumModel result.toOption :
        Step H E Unit).Runs t rest r s') :
    ∃ a, r = .ok a ∧ Course context turn s
      (s.asked (.compile source type s.session.minimumModel s.session.options) result ::
        events ++ rest) s' := by
  obtain ⟨rfl, hr, rfl⟩ := runs_modifySession_iff.mp h
  rw [List.append_nil]
  exact ⟨(), hr, .single (.compiled hturn haction hsource result hreport)⟩

/-- A block to run is compiled once, for the lowest model. -/
theorem runBlock_inv {header : ShaderHeader} {text : Text} {line closed : Nat} {r : Except E Unit}
    (hturn : turn = some (.close (.shader header text) closed))
    (haction : s.session.action = .run) (haccepts : context.caps.accepts header.format = true)
    (hsource : (s.session.stage header.type).source = some ⟨text, header.format⟩)
    (h : (runBlock context header ⟨text, header.format⟩ line : Step H E Unit).Runs s events r s') :
    ∃ a, r = .ok a ∧ Course context turn s events s' := by
  rw [runBlock, if_pos haccepts, runs_session_bind_iff] at h
  obtain ⟨before, result, t, after, ⟨rfl, rfl⟩, hrest, rfl⟩ := Runs.bind_inv h compile_inv
  obtain ⟨before, _, u, after, hcheck, hset, rfl⟩ :=
    Runs.bind_inv hrest (checkCompile_inv turn (by simp [hturn, Turn.isProbe]))
  exact setCompiled_course (.inl ⟨header, text, closed, hturn, rfl, rfl, haccepts⟩) haction
    hsource hcheck hset

/-- A source that is not accepted is reported, and tests are skipped from here on. -/
theorem runBlock_refuse_inv {header : ShaderHeader} {source : ShaderSource} {line : Nat}
    {r : Except E Unit} (haccepts : context.caps.accepts header.format = false)
    (h : (runBlock context header source line : Step H E Unit).Runs s events r s') :
    ∃ a reason t, r = .ok a ∧ Chain (Remark turn) s events t ∧
      s' = t.update ({ · with action := .skip, skipReason := some reason }) := by
  rw [runBlock, if_neg (by simp [haccepts])] at h
  obtain ⟨before, _, t, after, hlog, hskip, rfl⟩ := Runs.bind_inv h (log_inv turn)
  obtain ⟨rfl, hr, rfl⟩ := runs_modifySession_iff.mp hskip
  rw [List.append_nil]
  exact ⟨(), _, t, hr, hlog, rfl⟩

/-- A block is compiled if its format is accepted, and left out otherwise. -/
theorem compileBlock_inv {header : ShaderHeader} {text : Text} {line closed : Nat}
    {r : Except E Unit} (hturn : turn = some (.close (.shader header text) closed))
    (haction : s.session.action = .compile)
    (h : (compileBlock context header ⟨text, header.format⟩ line :
      Step H E Unit).Runs s events r s') :
    ∃ a, r = .ok a ∧ Course context turn s events s' := by
  rw [compileBlock] at h
  split at h
  · rename_i haccepts
    rw [runs_session_bind_iff] at h
    exact compileVariants_inv hturn haction haccepts h
  · obtain ⟨a, hr, hskip⟩ := skip_inv turn h
    exact ⟨a, hr, course_of_remarks hskip⟩

/-- The end of a shader block stores its source and compiles it. -/
theorem finishShader_inv {header : ShaderHeader} {text : Text} {line closed : Nat}
    {r : Except E Unit} (hturn : turn = some (.close (.shader header text) closed))
    (h : (finishShader context header text line : Step H E Unit).Runs s events r s') :
    ∃ a, r = .ok a ∧ Course context turn s events s' := by
  rw [finishShader] at h
  obtain ⟨rest, rfl, hrest⟩ := runs_note_bind_iff.mp h
  rw [runs_modifySession_bind_iff, runs_session_bind_iff] at hrest
  have hstore (hkept : context.caps.accepts header.format = true ∨ s.session.action ≠ .run) :
      Move context turn s [s.noted (.store header.type ⟨text, header.format⟩)]
        (s.update (·.setSource header.type ⟨text, header.format⟩)) := .store s hturn hkept
  -- Whether the store is a move of its own depends on what becomes of the source.
  cases haction : (s.update (·.setSource header.type ⟨text, header.format⟩)).session.action with
  | skip =>
    rw [haction] at hrest
    obtain ⟨rfl, hr, rfl⟩ := runs_pure_iff.mp hrest
    exact ⟨(), hr, .single (hstore (.inr fun hrun => by cases haction.symm.trans hrun))⟩
  | compile =>
    rw [haction] at hrest
    obtain ⟨a, hr, hcourse⟩ := compileBlock_inv hturn haction hrest
    exact ⟨a, hr, .cons (hstore (.inr fun hrun => by cases haction.symm.trans hrun)) hcourse⟩
  | run =>
    rw [haction] at hrest
    cases haccepts : context.caps.accepts header.format with
    | true =>
      obtain ⟨a, hr, hcourse⟩ := runBlock_inv hturn haction haccepts
        (by simp [Session.setSource, Session.setStage, Stage.ofSource]) hrest
      exact ⟨a, hr, .cons (hstore (.inl haccepts)) hcourse⟩
    | false =>
      -- The source is stored and tests are skipped in one move.
      obtain ⟨a, reason, t, hr, hreport, rfl⟩ := runBlock_refuse_inv haccepts hrest
      exact ⟨a, hr, .single (.refuse hturn haccepts hreport reason)⟩

/-! ## Requirements and preprocessing -/

/-- The end of requirements sets the range and the options, or begins to skip. -/
theorem finishRequire_inv {block : RequireBlock} {closed : Nat} {r : Except E Unit}
    (hturn : turn = some (.close (.require block) closed))
    (h : (finishRequire context block : Step H E Unit).Runs s events r s') :
    ∃ a, r = .ok a ∧ Course context turn s events s' := by
  rw [finishRequire, runs_modifySession_bind_iff] at h
  -- The requirements take effect first, whether they are met or not.
  have hrequire : Move context turn s [] _ := .require s hturn
  cases hreason : (block.evaluate context.caps).skipReason? with
  | some reason =>
    rw [hreason] at h
    obtain ⟨before, _, t, after, hlog, hskip, rfl⟩ := Runs.bind_inv h (log_inv turn)
    obtain ⟨rfl, hr, rfl⟩ := runs_modifySession_iff.mp hskip
    exact ⟨(), hr, .silent hrequire ((course_of_remarks hlog).trans
      (.single (.halt t hturn hreason)))⟩
  | none =>
    rw [hreason] at h
    obtain ⟨rfl, hr, rfl⟩ := runs_modifySession_iff.mp h
    exact ⟨(), hr, .silent hrequire (.single (.resume _ hturn hreason))⟩

/-- The end of a preprocessor block asks and reports once at most. -/
theorem finishPreproc_inv {text : Text} {refused : Bool} {line closed : Nat} {r : Except E Unit}
    (hturn : turn = some (.close (.preproc refused text) closed))
    (h : (finishPreproc context text refused line : Step H E Unit).Runs s events r s') :
    ∃ a, r = .ok a ∧ Course context turn s events s' := by
  rw [finishPreproc, runs_session_bind_iff] at h
  split at h
  · rename_i hmode
    obtain ⟨result, rest, rfl, hrest⟩ := runs_ask_bind_iff.mp h
    have hask := Move.preprocessed s hturn hmode.1 hmode.2 result
    -- Its result is checked, or the reason not to check it is reported.
    split at hrest
    · obtain ⟨a, hr, hcheck⟩ := check_inv turn (by simp [hturn, Turn.isProbe]) hrest
      exact ⟨a, hr, .cons hask (course_of_remarks hcheck)⟩
    · obtain ⟨a, hr, hskip⟩ := skip_inv turn hrest
      exact ⟨a, hr, .cons hask (course_of_remarks hskip)⟩
  · obtain ⟨rfl, hr, rfl⟩ := runs_pure_iff.mp h
    exact ⟨(), hr, .refl s'⟩

/-- The end of a test block reports it if tests are skipped. -/
theorem finishTest_inv {line : Nat} {r : Except E Unit}
    (h : (finishTest context line : Step H E Unit).Runs s events r s') :
    ∃ a, r = .ok a ∧ Course context turn s events s' := by
  rw [finishTest, runs_session_bind_iff] at h
  split at h
  · obtain ⟨a, hr, hskip⟩ := skip_inv turn h
    exact ⟨a, hr, course_of_remarks hskip⟩
  · obtain ⟨rfl, hr, rfl⟩ := runs_pure_iff.mp h
    exact ⟨(), hr, .refl s'⟩

/-! ## Resources -/

/-- The destruction of a resource that another one replaced. -/
def replacedEvents (s : RunState H) (replaced : Option (Resource H)) : List (Event H) :=
  replaced.toList.map fun old => s.asked (.destroy old) ()

/-- A created resource becomes live unless the registry is full. -/
theorem register_inv {desc : ResourceDesc} {handle : H} {r : Except Fault Unit}
    (h : (register desc handle : Step H Fault Unit).Runs s events r s') :
    (∃ replaced registry,
      (s.session.registry.clearFailed desc.ref).insert ⟨desc, handle⟩ = (.ok replaced, registry) ∧
        r = .ok () ∧ events = replacedEvents s' replaced ∧
        s' = s.withRegistry fun _ => registry) ∨
    s.session.registry.refuses desc.ref = true ∧ r = .error (.tooManyResources maxResources) ∧
      events = [] ∧ s' = s.withRegistry (·.clearFailed desc.ref) := by
  rw [register, runs_modifySession_bind_iff, runs_session_bind_iff] at h
  simp only [RunState.session_update] at h
  -- What comes of the insertion, and the registry that it leaves.
  rcases hinsert : (s.session.registry.clearFailed desc.ref).insert ⟨desc, handle⟩ with
    ⟨result, registry⟩
  rw [hinsert, runs_modifySession_bind_iff] at h
  cases result with
  | error fault =>
    -- Only a full registry refuses, and it keeps its resources.
    obtain ⟨rfl, rfl, hfull⟩ := Registry.insert_error hinsert
    obtain ⟨rfl, hr, rfl⟩ := runs_ofExcept_error_bind_iff.mp h
    exact .inr ⟨hfull, hr, rfl, rfl⟩
  | ok replaced =>
    rw [runs_ofExcept_ok_bind_iff] at h
    -- What was replaced is destroyed in the state with the new registry.
    refine .inl ⟨replaced, registry, rfl, ?_⟩
    cases replaced with
    | none =>
      obtain ⟨rfl, hr, rfl⟩ := runs_pure_iff.mp h
      exact ⟨hr, rfl, rfl⟩
    | some old =>
      obtain ⟨_, rfl, hr, rfl⟩ := runs_ask_iff.mp h
      exact ⟨hr, rfl, rfl⟩

/-- A failed creation is remembered and reported. -/
theorem creationFailed_inv (turn : Option Turn) {desc : ResourceDesc} {line : Nat}
    {error : BackendError} {r : Except Fault Unit}
    (hprobe : turn.any Turn.isProbe = true → s.session.lastRenderFailed = false)
    (h : (creationFailed context desc line error : Step H Fault Unit).Runs s events r s') :
    ∃ a, r = .ok a ∧
      Chain (Remark turn) (s.withRegistry (·.markFailed desc.ref)) events s' := by
  unfold creationFailed at h
  rw [runs_modifySession_bind_iff] at h
  cases error with
  | unsupported reason => exact skip_inv turn h
  | failed reason => exact check_inv turn hprobe h

/-- A creation makes a resource live, meets a full registry, or fails and is reported. -/
theorem createResource_inv {desc : ResourceDesc} {data : List UInt8} {line : Nat}
    {r : Except Fault Bool}
    (hprobe : turn.any Turn.isProbe = true → s.session.lastRenderFailed = false)
    (h : (createResource context desc data line : Step H Fault Bool).Runs s events r s') :
    ∃ logged, Chain (Remark turn) s logged s ∧
      ((∃ handle replaced registry,
        (s.session.registry.clearFailed desc.ref).insert ⟨desc, handle⟩ =
            (.ok replaced, registry) ∧ r = .ok true ∧
          events = logged ++ s.asked (.create desc data) (.ok handle) ::
            replacedEvents s' replaced ∧ s' = s.withRegistry fun _ => registry) ∨
      (∃ handle, s.session.registry.refuses desc.ref = true ∧
        r = .error (.tooManyResources maxResources) ∧
          events = logged ++ [s.asked (.create desc data) (.ok handle)] ∧
          s' = s.withRegistry (·.clearFailed desc.ref)) ∨
      ∃ error rest, r = .ok false ∧
        events = logged ++ s.asked (.create desc data) (.error error) :: rest ∧
        Chain (Remark turn) (s.withRegistry (·.markFailed desc.ref)) rest s') := by
  rw [createResource] at h
  obtain ⟨entry, asked, rfl, hask⟩ := runs_ask_bind_iff.mp h
  obtain ⟨created, rest, rfl, hrest⟩ := runs_ask_bind_iff.mp hask
  refine ⟨_, .single (.log s ⟨.debug, .run, creationText context desc line⟩), ?_⟩
  cases created with
  | ok handle =>
    obtain ⟨before, _, t, after, hregister, hpure, rfl⟩ | ⟨e, hregister, rfl⟩ :=
      runs_bind_iff.mp hrest
    · -- The resource became live.
      obtain ⟨rfl, hr, rfl⟩ := runs_pure_iff.mp hpure
      obtain ⟨replaced, registry, hinsert, -, hevents, hs⟩ | ⟨-, hr', -⟩ :=
        register_inv hregister
      · exact .inl ⟨handle, replaced, registry, hinsert, hr, by simp [hevents], hs⟩
      · cases hr'
    · -- The fault is that of a full registry.
      obtain ⟨replaced, registry, hinsert, hr, -⟩ | ⟨hfull, hr, rfl, hs⟩ :=
        register_inv hregister
      · cases hr
      · cases hr
        exact .inr (.inl ⟨handle, hfull, rfl, rfl, hs⟩)
  | error error =>
    -- The backend created nothing.
    obtain ⟨before, _, t, after, hreport, hpure, rfl⟩ :=
      Runs.bind_inv hrest (creationFailed_inv turn hprobe)
    obtain ⟨rfl, hr, rfl⟩ := runs_pure_iff.mp hpure
    exact .inr (.inr ⟨error, before, hr, by simp, hreport⟩)

/-- A creation is one request, whose handle is registered, or which is reported. -/
theorem createResource_proceeds {desc : ResourceDesc} {data : List UInt8} {line : Nat}
    {r : Except Fault Bool} (hturn : turn.any Turn.creates = true)
    (hprobe : turn.any Turn.isProbe = true → s.session.lastRenderFailed = false)
    (haction : s.session.action ≠ .skip)
    (h : (createResource context desc data line : Step H Fault Bool).Runs s events r s') :
    Proceeds (Course context turn) id s events r s' := by
  obtain ⟨logged, hlog, ⟨handle, replaced, registry, hinsert, rfl, rfl, rfl⟩ |
    ⟨handle, hfull, rfl, rfl, rfl⟩ | ⟨error, rest, rfl, rfl, hreport⟩⟩ :=
    createResource_inv hprobe h
  · exact .orderly ((course_of_remarks hlog).trans
      (.single (.created s hturn haction data hinsert))) _
  · exact .crowded (course_of_remarks hlog) desc data handle hfull rfl
  · exact .orderly ((course_of_remarks hlog).trans
      (.cons (.notCreated s desc hturn haction data error) (course_of_remarks hreport))) _

/-- The end of a resource block is one creation at most. -/
theorem finishResource_proceeds {block : ResourceBlock} {line closed : Nat} {r : Except Fault Unit}
    (hturn : turn = some (.close (.resource block) closed))
    (h : (finishResource context block line : Step H Fault Unit).Runs s events r s') :
    Proceeds (Course context turn) id s events r s' := by
  rw [finishResource] at h
  cases hdesc : checkedDesc block with
  | error fault =>
    -- A block that describes no resource is refused before anything is created.
    rw [hdesc] at h
    obtain ⟨rfl, rfl, rfl⟩ := runs_ofExcept_error_bind_iff.mp h
    exact .orderly (.refl s') _
  | ok desc =>
    rw [hdesc, runs_ofExcept_ok_bind_iff, runs_session_bind_iff] at h
    split at h
    · rename_i hmode
      refine Proceeds.bind id Chain.trans h (createResource_proceeds (by simp [hturn, Turn.creates])
        (by simp [hturn, Turn.isProbe]) hmode.2) ?_
      intro before a t rest _ hpure
      obtain ⟨rfl, rfl, rfl⟩ := runs_pure_iff.mp hpure
      exact .orderly (.refl _) _
    · obtain ⟨rfl, rfl, rfl⟩ := runs_pure_iff.mp h
      exact .orderly (.refl _) _

/-- The end of a sampler block sets the sampler or refuses it. -/
theorem finishSampler_proceeds {sampler : SamplerDesc} {r : Except Fault Unit}
    (h : (finishSampler sampler : Step H Fault Unit).Runs s events r s') :
    Proceeds (Course context turn) id s events r s' := by
  rw [finishSampler, runs_session_bind_iff, runs_modifySession_bind_iff] at h
  obtain ⟨rfl, rfl⟩ := runs_ofExcept h
  exact .orderly (.single (.sampler s sampler)) _

/-! ## Blocks -/

/-- The end of a block: the run turns to it, and goes on in moves. -/
theorem finishBlock_proceeds {block : Block} {line : Nat} {r : Except Fault Unit}
    (h : (finishBlock context block line : Step H Fault Unit).Runs s events r s') :
    ∃ rest, events = s.noted (.turn (.close block line)) :: rest ∧
      Proceeds (Course context (some (.close block line))) id s rest r s' := by
  unfold finishBlock at h
  obtain ⟨rest, rfl, hrest⟩ := runs_note_bind_iff.mp h
  refine ⟨rest, rfl, ?_⟩
  -- Most blocks cannot fail at their end.
  have infallible (hinv : ∃ a, r = .ok a ∧ Course context (some (.close block line)) s rest s') :
      Proceeds (Course context (some (.close block line))) id s rest r s' :=
    .orderly hinv.choose_spec.2 r
  cases block with
  | none | inputLayout =>
    obtain ⟨rfl, rfl, rfl⟩ := runs_pure_iff.mp hrest
    exact .orderly (.refl s') _
  | test => exact infallible (finishTest_inv hrest)
  | require block => exact infallible (finishRequire_inv rfl hrest)
  | resource block => exact finishResource_proceeds rfl hrest
  | sampler sampler => exact finishSampler_proceeds hrest
  | shader header text => exact infallible (finishShader_inv rfl hrest)
  | preproc refused text => exact infallible (finishPreproc_inv rfl hrest)

end ShaderConformance.Step
