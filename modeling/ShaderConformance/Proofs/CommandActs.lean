import ShaderConformance.Proofs.Acts

/-!
# The execution of a test line is a chain of acts

## Main definitions

- `Refreshed`: what happens to a stage before a test line is executed
- `ProbeReading`, `ProbeAnswered`: how a probe reads, and what follows
- `QuadCompiled`: how the vertex shader of a quad is compiled

## Main statements

- `refreshStage_cases`, `compileQuad_cases`: what compiling a stage comes to
- `readProbe_cases`: what reading a probe comes to
- `refreshStages_inv`: no stage is stale after stale stages were compiled again
- `drawQuad_proceeds`: a quad is drawn by a ready session or given up
- `execute_proceeds`, `runCommand_proceeds`: what a test line does, in acts
-/

namespace ShaderConformance.Step

variable {H E : Type} {context : RunContext} {turn : Option Turn} {s s' : RunState H}
  {events : List (Event H)}

/-! ## Stale stages -/

/-- What compiling some stages again keeps and brings about. -/
structure Freshened (types : List ShaderType) (s s' : Session H) : Prop where
  action : s'.action = s.action
  fresh : ∀ type, type ∈ types ∨ s.IsFresh type → s'.IsFresh type

/-- A compiled stage is fresh, and the others are as they were. -/
theorem isFresh_setCompiled (s : Session H) (type : ShaderType)
    (compiled : Option CompiledShader) {type' : ShaderType}
    (h : type' = type ∨ s.IsFresh type') :
    (s.setCompiled type s.minimumModel compiled).IsFresh type' := by
  by_cases htype : type' = type
  · simp [Session.IsFresh, Session.setCompiled, Session.setStage, htype, Stage.withCompiled,
      Stage.isStale]
  · have hfresh := h.resolve_left htype
    simpa [Session.IsFresh, Session.setCompiled, Session.setStage, htype] using hfresh

/-- What is logged of a stored source that no longer compiles. -/
def recompileEntry (context : RunContext) (type : ShaderType) (model : ShaderModel)
    (error : CompileError) : LogEntry :=
  ⟨.debug, .run, s!"{context.file}: Recompiling the {type} at {model}: {error.message}"⟩

/-- What is logged when a stored source was compiled again. -/
def recompileEntries (context : RunContext) (type : ShaderType) (model : ShaderModel) :
    Except CompileError CompiledShader → List LogEntry
  | .ok _ => []
  | .error error => [recompileEntry context type model error]

/-- A stage is left as it is, or it was stale and is compiled again. -/
inductive Refreshed (context : RunContext) (type : ShaderType) (s : RunState H) :
    List (Event H) → RunState H → Prop
  | fresh (h : s.session.IsFresh type) : Refreshed context type s [] s
  | again {source : ShaderSource} (hsource : (s.session.stage type).source = some source)
      (hstale : (s.session.stage type).isStale s.session.minimumModel = true)
      (result : Except CompileError CompiledShader) :
      Refreshed context type s
        (s.asked (.compile source type s.session.minimumModel s.session.options) result ::
          (recompileEntries context type s.session.minimumModel result).map fun entry =>
            s.asked (.log entry) ())
        (s.update (·.setCompiled type s.session.minimumModel result.toOption))

/-- A stage is compiled again at most once. -/
theorem refreshStage_cases {type : ShaderType} {r : Except E Unit}
    (h : (refreshStage context type : Step H E Unit).Runs s events r s') :
    r = .ok () ∧ Refreshed context type s events s' := by
  rw [refreshStage, runs_session_bind_iff] at h
  dsimp only at h
  split at h
  · rename_i hstale
    cases hsource : (s.session.stage type).source with
    -- A stage without a source is never stale.
    | none => simp [Stage.isStale, hsource] at hstale
    | some source =>
      rw [hsource] at h
      obtain ⟨before, result, t, after, ⟨rfl, rfl⟩, hrest, rfl⟩ := Runs.bind_inv h compile_inv
      cases result with
      | ok compiled =>
        obtain ⟨rfl, hr, rfl⟩ := runs_modifySession_iff.mp hrest
        exact ⟨hr, .again hsource hstale (.ok compiled)⟩
      | error error =>
        obtain ⟨⟨⟩, rest, rfl, hset⟩ := runs_ask_bind_iff.mp hrest
        obtain ⟨rfl, hr, rfl⟩ := runs_modifySession_iff.mp hset
        exact ⟨hr, .again hsource hstale (.error error)⟩
  · rename_i hfresh
    obtain ⟨rfl, hr, rfl⟩ := runs_pure_iff.mp h
    refine ⟨hr, .fresh ?_⟩
    simpa [Session.IsFresh] using hfresh

/-- Compiling stages again comes to no fault. -/
theorem refreshStages_ok {types : List ShaderType} {r : Except E Unit}
    (h : (refreshStages context types : Step H E Unit).Runs s events r s') : r = .ok () := by
  induction types generalizing s events with
  | nil => exact (runs_pure_iff.mp h).2.1
  | cons type types ih =>
    obtain ⟨_, _, t, _, -, hrest, -⟩ | ⟨fault, hfirst, rfl⟩ := runs_bind_iff.mp h
    · exact ih hrest
    · exact (refreshStage_cases hfirst).1

/-- A stage is fresh afterwards, or has failed. -/
theorem refreshStage_inv (line : Nat) (test : TestLine) {type : ShaderType} {r : Except E Unit}
    (haction : s.session.action = .run)
    (h : (refreshStage context type : Step H E Unit).Runs s events r s') :
    ∃ a, r = .ok a ∧ Course context (some (.read line test)) s events s' ∧
      Freshened [type] s.session s'.session := by
  obtain ⟨hr, hrefreshed⟩ := refreshStage_cases h
  refine ⟨(), hr, ?_⟩
  cases hrefreshed with
  | fresh hfresh =>
    refine ⟨.refl s, rfl, fun type' htype' => htype'.elim (fun hmem => ?_) id⟩
    rwa [List.mem_singleton.mp hmem]
  | again hsource hstale result =>
    -- A failure is logged between the compile and the keeping of its result.
    have hlog : Chain (Remark (some (.read line test))) s
        ((recompileEntries context type s.session.minimumModel result).map fun entry =>
          s.asked (.log entry) ()) s := by
      cases result with
      | ok compiled => exact .refl s
      | error error => exact .single (.log s _)
    exact ⟨.single (.compiled (.inr ⟨line, test, rfl⟩) haction hsource result hlog), rfl,
      fun type' htype' => isFresh_setCompiled _ _ _ (by simpa using htype')⟩

/-- Stages are refreshed one after the other. -/
theorem refreshStages_inv (line : Nat) (test : TestLine) {types : List ShaderType}
    {r : Except E Unit} (haction : s.session.action = .run)
    (h : (refreshStages context types : Step H E Unit).Runs s events r s') :
    ∃ a, r = .ok a ∧ Course context (some (.read line test)) s events s' ∧
      Freshened types s.session s'.session := by
  induction types generalizing s events with
  | nil =>
    obtain ⟨rfl, hr, rfl⟩ := runs_pure_iff.mp h
    exact ⟨(), hr, .refl s', rfl, fun type htype => htype.elim (by simp) id⟩
  | cons type types ih =>
    obtain ⟨before, _, t, after, ⟨hfirst, hfreshened⟩, hrest, rfl⟩ :=
      Runs.bind_inv h (refreshStage_inv line test haction)
    obtain ⟨a, hr, hmore, hfreshened'⟩ := ih (hfreshened.action.trans haction) hrest
    -- A stage that is not among the others is fresh since the first one was compiled.
    refine ⟨a, hr, hfirst.trans hmore, hfreshened'.action.trans hfreshened.action,
      fun type' htype' => hfreshened'.fresh type' ?_⟩
    by_cases hmem : type' ∈ types
    · exact .inl hmem
    · refine .inr (hfreshened.fresh type' ?_)
      simpa [hmem] using htype'

/-! ## Uses of resources -/

/-- An expected success is one remark. -/
theorem expectSuccess_inv (turn : Option Turn) {spot : Spot} {ok : Bool} {message : String}
    {r : Except E Unit}
    (hprobe : turn.any Turn.isProbe = true → s.session.lastRenderFailed = false)
    (h : (expectSuccess context spot ok message : Step H E Unit).Runs s events r s') :
    ∃ a, r = .ok a ∧ Chain (Remark turn) s events s' := by
  unfold expectSuccess at h
  by_cases hok : ok = true
  · rw [if_pos hok] at h
    obtain ⟨rfl, hr, rfl⟩ := runs_pure_iff.mp h
    exact ⟨(), hr, .refl s'⟩
  · rw [if_neg hok] at h
    exact check_inv turn hprobe h

/-- A looked-up resource is the live one of its name, and looking it up leaves everything as it
    was. -/
theorem Runs.lookup_bind_inv {T : Type} {ref : ResourceRef} {f : Resource H → Step H Fault T}
    {r : Except Fault T} (h : (lookup ref >>= f).Runs s events r s') :
    (∃ resource, s.session.registry.get? ref = some resource ∧
      (f resource).Runs s events r s') ∨
      events = [] ∧ r = .error (.noResource ref) ∧ s' = s := by
  rw [lookup, bind_assoc, runs_session_bind_iff] at h
  cases hget : s.session.registry.get? ref with
  | some resource =>
    rw [hget, runs_pure_bind_iff] at h
    exact .inl ⟨resource, rfl, h⟩
  | none =>
    rw [hget] at h
    exact .inr (runs_ofExcept_error_bind_iff.mp h)

/-- Reports after a use. -/
theorem actsAt_of_remarks (h : Chain (Remark turn) s events s') : ActsAt context turn s events s' :=
  actsAt_of_course (course_of_remarks h)

section Uses

variable {line : Nat} {test : TestLine} {spot : Spot} {r : Except Fault Unit}

/-- A clear is one request and one remark. -/
theorem clear_acts {ref : ResourceRef} {value : ClearValue} {message : String}
    (hready : s.session.IsReady) (haction : s.session.action = .run)
    (hprobe : test.command.isProbe = false)
    (h : (clear context spot ref value message).Runs s events r s') :
    ActsAt context (some (.execute line test)) s events s' := by
  rw [clear] at h
  obtain ⟨resource, hlive, hrest⟩ | ⟨rfl, -, rfl⟩ := Runs.lookup_bind_inv h
  · obtain ⟨ok, rest, rfl, hexpect⟩ := runs_ask_bind_iff.mp hrest
    obtain ⟨-, -, hreport⟩ := expectSuccess_inv (some (.execute line test))
      (by simp [Turn.isProbe, hprobe]) hexpect
    exact .cons (.clear s hready haction (Registry.mem_resources_of_get? hlive) value ok)
      (actsAt_of_remarks hreport)
  · exact .refl _

/-- A copy is refused, or one request and one remark. -/
theorem copy_acts {source target : ResourceRef} (hready : s.session.IsReady)
    (haction : s.session.action = .run) (hprobe : test.command.isProbe = false)
    (h : (copy context spot source target).Runs s events r s') :
    ActsAt context (some (.execute line test)) s events s' := by
  rw [copy] at h
  obtain ⟨read, hread, hrest⟩ | ⟨rfl, -, rfl⟩ := Runs.lookup_bind_inv h
  · obtain ⟨written, hwritten, hcopy⟩ | ⟨rfl, -, rfl⟩ := Runs.lookup_bind_inv hrest
    · -- Both resources are live, but they may not match.
      cases hmismatch : copyMismatch? read.desc written.desc with
      | some mismatch =>
        rw [hmismatch] at hcopy
        obtain ⟨rfl, -, rfl⟩ := runs_refuse_iff.mp hcopy
        exact .refl _
      | none =>
        rw [hmismatch] at hcopy
        obtain ⟨ok, rest, rfl, hexpect⟩ := runs_ask_bind_iff.mp hcopy
        obtain ⟨-, -, hreport⟩ := expectSuccess_inv (some (.execute line test))
          (by simp [Turn.isProbe, hprobe]) hexpect
        exact .cons (.copy s hready haction (Registry.mem_resources_of_get? hread)
          (Registry.mem_resources_of_get? hwritten) ok) (actsAt_of_remarks hreport)
    · exact .refl _
  · exact .refl _

/-- What follows the answer to a probe that read something back: it breaks off or fails without
    contents, and contents that fit are compared. -/
inductive ProbeAnswered (context : RunContext) (spot : Spot) (target : ResourceRef)
    (area : ProbeRect) (value : ProbeValue) (steps : UInt32) (s : RunState H) :
    Except ArithmeticError (Option Readback) → List (Event H) → Except Fault Unit → RunState H →
      Prop
  | broken (e : ArithmeticError) : ProbeAnswered context spot target area value steps s (.error e)
      [] (.error (.arithmetic e)) s
  | unread {events : List (Event H)} {r : Except Fault Unit} {s' : RunState H}
      (hcheck : (check context (spot.check false s!"Reading back {target} failed.")).Runs s events
        r s') :
      ProbeAnswered context spot target area value steps s (.ok none) events r s'
  | unfit {contents : Readback} {fault : Fault}
      (hfits : checkProbe contents area value = .error fault) :
      ProbeAnswered context spot target area value steps s (.ok (some contents)) [] (.error fault) s
  | compared {contents : Readback} {events : List (Event H)} {r : Except Fault Unit}
      {s' : RunState H} (hfits : checkProbe contents area value = .ok ())
      (hcompare : (compareProbe context spot contents area value steps).Runs s events r s') :
      ProbeAnswered context spot target area value steps s (.ok (some contents)) events r s'

/-- How a probe reads: nothing is asked for if there is no such resource, no such layer, or no
    number for it; and otherwise a subresource is read back, once. -/
inductive ProbeReading (context : RunContext) (spot : Spot) (target : ResourceRef)
    (rect : ProbeRect) (value : ProbeValue) (steps : UInt32) (s : RunState H) :
    List (Event H) → Except Fault Unit → RunState H → Prop
  | refused (fault : Fault) :
      ProbeReading context spot target rect value steps s [] (.error fault) s
  | asked {resource : Resource H} {subresource : UInt32} {area : ProbeRect}
      {answer : Except ArithmeticError (Option Readback)} {rest : List (Event H)}
      {r : Except Fault Unit} {s' : RunState H}
      (hlive : s.session.registry.get? target = some resource)
      (harea : probeArea resource.desc target rect = .ok (subresource, area))
      (hanswered : ProbeAnswered context spot target area value steps s answer rest r s') :
      ProbeReading context spot target rect value steps s
        (s.asked (.readback resource subresource) answer :: rest) r s'

/-- A probe of a resource is refused, or a readback and what becomes of it. -/
theorem readProbe_cases {target : ResourceRef} {rect : ProbeRect} {value : ProbeValue}
    {steps : UInt32} (h : (readProbe context spot target rect value steps).Runs s events r s') :
    ProbeReading context spot target rect value steps s events r s' := by
  rw [readProbe] at h
  obtain ⟨resource, hlive, harea⟩ | ⟨rfl, rfl, rfl⟩ := Runs.lookup_bind_inv h
  · cases hplace : probeArea resource.desc target rect with
    | error fault =>
      rw [hplace] at harea
      obtain ⟨rfl, rfl, rfl⟩ := runs_ofExcept_error_bind_iff.mp harea
      exact .refused fault
    | ok place =>
      obtain ⟨subresource, area⟩ := place
      rw [hplace, runs_ofExcept_ok_bind_iff] at harea
      obtain ⟨answer, rest, rfl, hrest⟩ := runs_ask_bind_iff.mp harea
      -- Up to here nothing was asked; then there is one readback.
      refine .asked hlive hplace ?_
      cases answer with
      | error e =>
        obtain ⟨rfl, rfl, rfl⟩ := runs_refuse_iff.mp hrest
        exact .broken e
      | ok contents =>
        cases contents with
        | none => exact .unread hrest
        | some contents =>
          dsimp only at hrest
          cases hfits : checkProbe contents area value with
          | error fault =>
            rw [hfits] at hrest
            obtain ⟨rfl, rfl, rfl⟩ := runs_ofExcept_error_bind_iff.mp hrest
            exact .unfit hfits
          | ok _ =>
            rw [hfits, runs_ofExcept_ok_bind_iff] at hrest
            exact .compared hfits hrest
  · exact .refused _

/-- A comparison is reported, unless it breaks off. -/
theorem compareProbe_inv (turn : Option Turn) {readback : Readback} {rect : ProbeRect}
    {value : ProbeValue} {steps : UInt32} (hrendered : s.session.lastRenderFailed = false)
    (h : (compareProbe context spot readback rect value steps).Runs s events r s') :
    Chain (Remark turn) s events s' := by
  unfold compareProbe at h
  split at h
  · obtain ⟨rfl, -, rfl⟩ := runs_refuse_iff.mp h
    exact .refl _
  · obtain ⟨-, -, hreport⟩ := check_inv turn (fun _ => hrendered) h
    exact hreport
  · obtain ⟨-, -, hreport⟩ := check_inv turn (fun _ => hrendered) h
    exact hreport

/-- A probe reads a live resource back and reports, or does nothing. -/
theorem readProbe_acts {ref : ResourceRef} {rect : ProbeRect} {value : ProbeValue}
    {steps : UInt32} (hready : s.session.IsReady) (haction : s.session.action = .run)
    (hprobe : test.command.isProbe = true) (hrendered : s.session.lastRenderFailed = false)
    (h : (readProbe context spot ref rect value steps).Runs s events r s') :
    ActsAt context (some (.execute line test)) s events s' := by
  cases readProbe_cases h with
  | refused fault => exact .refl _
  | @asked resource subresource area answer rest _ _ hlive harea hanswered =>
    have hread : Act context (some (.execute line test), s)
        [s.asked (.readback resource subresource) answer] (some (.execute line test), s) :=
      .readback s hready haction hprobe hrendered (Registry.mem_resources_of_get? hlive)
        subresource answer
    cases hanswered with
    | broken | unfit => exact .single hread
    | unread hcheck =>
      obtain ⟨-, -, hreport⟩ := check_inv (some (.execute line test)) (fun _ => hrendered) hcheck
      exact .cons hread (actsAt_of_remarks hreport)
    | compared hfits hcompare =>
      exact .cons hread (actsAt_of_remarks (compareProbe_inv (some (.execute line test)) hrendered
        hcompare))

/-- A probe after a failed render is only logged. -/
theorem probe_acts {ref : ResourceRef} {rect : ProbeRect} {value : ProbeValue}
    {steps : UInt32} (hready : s.session.IsReady) (haction : s.session.action = .run)
    (hprobe : test.command.isProbe = true)
    (h : (probe context spot ref rect value steps).Runs s events r s') :
    ActsAt context (some (.execute line test)) s events s' := by
  rw [probe, runs_session_bind_iff] at h
  split at h
  · obtain ⟨-, -, hlog⟩ := log_inv (some (.execute line test)) h
    exact actsAt_of_remarks hlog
  · rename_i hrendered
    exact readProbe_acts hready haction hprobe (by simpa using hrendered) h

end Uses

/-! ## Quads -/

/-- What makes a session ready is its compiles and its failed creations. -/
theorem isReady_of_eq {session session' : Session H} (h : session.IsReady)
    (hstage : session'.stage = session.stage)
    (hmodel : session'.minimumModel = session.minimumModel)
    (hfailed : session'.registry.failed = session.registry.failed) : session'.IsReady where
  created := by
    rw [Registry.hasFailures_eq_false_iff, hfailed, ← Registry.hasFailures_eq_false_iff]
    exact h.created
  compiled := by
    rw [Session.hasFailedShader, hstage]
    exact h.compiled
  fresh type := by
    rw [Session.IsFresh, hstage, hmodel]
    exact h.fresh type

/-- A stage that compiles keeps a session ready. -/
theorem isReady_setCompiled {session : Session H} (h : session.IsReady) (type : ShaderType)
    (source : ShaderSource) (compiled : CompiledShader) :
    ((session.setSource type source).setCompiled type session.minimumModel
      (some compiled)).IsReady where
  created := h.created
  compiled := by
    have hcompiled := h.compiled
    rw [Session.hasFailedShader, List.any_eq_false] at hcompiled ⊢
    intro type' htype'
    by_cases htype : type' = type
    · -- The compile of the stage itself gave a shader.
      simp [Session.setCompiled, Session.setSource, Session.setStage, Stage.withCompiled,
        Stage.isFailed, htype]
    · simpa [Session.setCompiled, Session.setSource, Session.setStage, htype]
        using hcompiled type' htype'
  fresh type' := by
    refine isFresh_setCompiled (session.setSource type source) type _ ?_
    by_cases htype : type' = type
    · exact .inl htype
    · refine .inr ?_
      simpa [Session.IsFresh, Session.setSource, Session.setStage, htype] using h.fresh type'

section Quads

variable {line place : Nat} {test : TestLine} {spot : Spot}

/-- A part of a quad is made in moves, and a session with it is as ready as before. -/
def IsPart (context : RunContext) (turn : Option Turn) (s : RunState H) (events : List (Event H))
    (r : Except Fault Bool) (s' : RunState H) : Prop :=
  Proceeds (Course context turn) id s events r s' ∧
    (r = .ok true → s'.session.IsReady ∧ s'.session.action = .run)

/-- What a quad needs is created as part of it. -/
theorem createResource_part {desc : ResourceDesc} {data : List UInt8} {r : Except Fault Bool}
    (hquad : test.command = .drawQuad) (hready : s.session.IsReady)
    (haction : s.session.action = .run)
    (h : (createResource context desc data place : Step H Fault Bool).Runs s events r s') :
    IsPart context (some (.execute line test)) s events r s' := by
  have hprobe : (some (.execute line test)).any Turn.isProbe = true →
      s.session.lastRenderFailed = false := by
    simp [Turn.isProbe, hquad, Command.isProbe]
  refine ⟨createResource_proceeds (by simp [Turn.creates, hquad]) hprobe (by simp [haction]) h,
    fun hr => ?_⟩
  obtain ⟨logged, -, ⟨handle, replaced, registry, hinsert, -, -, rfl⟩ |
    ⟨handle, -, hr', -⟩ | ⟨error, rest, hr', -⟩⟩ := createResource_inv hprobe h
  · -- A ready session has no failures, so there is none to clear.
    have hfailed : registry.failed = s.session.registry.failed := by
      rw [(Registry.insert_ok hinsert).1, Registry.clearFailed,
        Registry.hasFailures_eq_false_iff.mp hready.created, List.filter_nil]
    exact ⟨isReady_of_eq hready rfl rfl hfailed, haction⟩
  -- In the other two cases the part was not made.
  · rw [hr] at hr'
    cases hr'
  · rw [hr] at hr'
    cases hr'

/-- A render target is there already, or created as part of the quad. -/
theorem ensureTarget_part {r : Except Fault Bool} (hquad : test.command = .drawQuad)
    (hready : s.session.IsReady) (haction : s.session.action = .run)
    (h : (ensureTarget context place : Step H Fault Bool).Runs s events r s') :
    IsPart context (some (.execute line test)) s events r s' := by
  rw [ensureTarget, runs_session_bind_iff] at h
  cases hget : s.session.registry.get? quadTarget.ref with
  | some target =>
    -- A target that is there is left as it is.
    rw [hget] at h
    obtain ⟨rfl, rfl, rfl⟩ := runs_pure_iff.mp h
    exact ⟨.orderly (.refl s') _, fun _ => ⟨hready, haction⟩⟩
  | none =>
    rw [hget] at h
    exact createResource_part hquad hready haction h

/-- The check of the vertex shader of a quad. -/
def quadCheck (spot : Spot) (error : CompileError) : Check :=
  spot.check false s!"Compiling the quad vertex shader: {error.message}"

/-- The compile of the vertex shader of a quad, which is then stored. -/
def quadEvents (s : RunState H) (result : Except CompileError CompiledShader) : List (Event H) :=
  [s.asked (.compile (quadShader s.session) .vertex s.session.minimumModel s.session.options)
      result,
    s.noted (.store .vertex (quadShader s.session))]

/-- The state with the vertex shader of a quad. -/
def withQuad (s : RunState H) (result : Except CompileError CompiledShader) : RunState H :=
  s.update fun session => (session.setSource .vertex (quadShader s.session)).setCompiled .vertex
    session.minimumModel result.toOption

/-- The vertex shader of a quad is compiled and stored, and checked if it failed. -/
inductive QuadCompiled (context : RunContext) (spot : Spot) (s : RunState H) :
    List (Event H) → Bool → RunState H → Prop
  | compiled (compiled : CompiledShader) :
      QuadCompiled context spot s (quadEvents s (.ok compiled)) true (withQuad s (.ok compiled))
  | failed (error : CompileError) {reports : List (Event H)} {s' : RunState H}
      (hcheck : (check context (quadCheck spot error) : Step H Fault Unit).Runs
        (withQuad s (.error error)) reports (.ok ()) s') :
      QuadCompiled context spot s (quadEvents s (.error error) ++ reports) false s'

/-- The shaders of a quad are compiled, or one of them fails. -/
theorem compileQuad_cases {r : Except Fault Bool}
    (h : (compileQuad context spot : Step H Fault Bool).Runs s events r s') :
    ∃ made, r = .ok made ∧ QuadCompiled context spot s events made s' := by
  rw [compileQuad, runs_session_bind_iff] at h
  obtain ⟨before, result, t, after, ⟨rfl, rfl⟩, hrest, rfl⟩ := Runs.bind_inv h compile_inv
  obtain ⟨rest, rfl, hkeep⟩ := runs_note_bind_iff.mp hrest
  rw [runs_modifySession_bind_iff] at hkeep
  cases result with
  | ok compiled =>
    obtain ⟨rfl, hr, rfl⟩ := runs_pure_iff.mp hkeep
    exact ⟨true, hr, .compiled compiled⟩
  | error error =>
    obtain ⟨reports, _, u, more, hcheck, hpure, rfl⟩ | ⟨fault, hcheck, -⟩ :=
      runs_bind_iff.mp hkeep
    · obtain ⟨rfl, hr, rfl⟩ := runs_pure_iff.mp hpure
      rw [List.append_nil]
      exact ⟨false, hr, .failed error hcheck⟩
    · -- A check comes to no fault.
      obtain ⟨_, hr, -⟩ := check_inv none (fun h => by cases h) hcheck
      cases hr

/-- The shaders of a quad are compiled as part of it. -/
theorem compileQuad_part {r : Except Fault Bool} (hquad : test.command = .drawQuad)
    (hready : s.session.IsReady) (haction : s.session.action = .run)
    (h : (compileQuad context spot : Step H Fault Bool).Runs s events r s') :
    IsPart context (some (.execute line test)) s events r s' := by
  obtain ⟨made, rfl, hcases⟩ := compileQuad_cases h
  have hmove (result : Except CompileError CompiledShader) :
      Move context (some (.execute line test)) s (quadEvents s result) (withQuad s result) :=
    .quad s rfl hquad haction result
  cases hcases with
  | compiled compiled =>
    exact ⟨.orderly (.single (hmove (.ok compiled))) _,
      fun _ => ⟨isReady_setCompiled hready .vertex _ compiled, haction⟩⟩
  | failed error hcheck =>
    -- The part is reported as missing, so nothing is claimed of the session after it.
    obtain ⟨_, -, hreports⟩ := check_inv (some (.execute line test))
      (by simp [Turn.isProbe, hquad, Command.isProbe]) hcheck
    exact ⟨.orderly (.step (hmove (.error error)) (course_of_remarks hreports)) _,
      fun hr => by cases hr⟩

/-- A quad is drawn by a ready session and reported, or given up. -/
inductive QuadEnds (context : RunContext) (turn : Option Turn) :
    RunState H → List (Event H) → RunState H → Prop
  | drawn {s t u : RunState H} {made reports : List (Event H)}
      (hmade : Course context turn s made t) (hready : t.session.IsReady)
      (haction : t.session.action = .run) (ok : Bool)
      (hreport : Chain (Remark turn) (t.update ({ · with lastRenderFailed := !ok })) reports u) :
      QuadEnds context turn s
        (made ++ t.asked (.draw t.session.renderState .triangleList 3 1) ok :: reports) u
  | givenUp {s t : RunState H} {made : List (Event H)} (hmade : Course context turn s made t) :
      QuadEnds context turn s made t

/-- What is made before the end of a quad is on its course. -/
theorem QuadEnds.after {t u : RunState H} {made rest : List (Event H)}
    (hmade : Course context turn s made t) (h : QuadEnds context turn t rest u) :
    QuadEnds context turn s (made ++ rest) u := by
  cases h with
  | drawn hmade' hready haction ok hreport =>
    rw [← List.append_assoc]
    exact .drawn (hmade.trans hmade') hready haction ok hreport
  | givenUp hmade' => exact .givenUp (hmade.trans hmade')

/-- A quad goes on after a part that was made, and ends with one that was not. -/
theorem Runs.part_inv {x : Step H Fault Bool} {f : Step H Fault Unit} {r : Except Fault Unit}
    (h : (x >>= fun made => if made = true then f else pure ()).Runs s events r s') :
    (∃ before t after, x.Runs s before (.ok true) t ∧ f.Runs t after r s' ∧
      events = before ++ after) ∨
    ∃ r', x.Runs s events r' s' := by
  obtain ⟨before, made, t, after, hpart, hrest, rfl⟩ | ⟨fault, hpart, -⟩ := runs_bind_iff.mp h
  · cases made with
    | true => exact .inl ⟨before, t, after, hpart, hrest, rfl⟩
    | false =>
      obtain ⟨rfl, -, rfl⟩ := runs_pure_iff.mp hrest
      exact .inr ⟨_, by rwa [List.append_nil]⟩
  · exact .inr ⟨_, hpart⟩

/-- A quad goes on with the part that was made, and is given up without it. -/
theorem quadEnds_of_part {x : Step H Fault Bool} {f : Step H Fault Unit} {r : Except Fault Unit}
    (h : (x >>= fun made => if made = true then f else pure ()).Runs s events r s')
    (hx : ∀ {before r t}, x.Runs s before r t → IsPart context turn s before r t)
    (hf : ∀ {t rest}, t.session.IsReady → t.session.action = .run → f.Runs t rest r s' →
      Proceeds (QuadEnds context turn) id t rest r s') :
    Proceeds (QuadEnds context turn) id s events r s' := by
  refine Proceeds.bind .givenUp .after h (fun hrun => (hx hrun).1) ?_
  intro before made t rest hrun hrest
  by_cases hmade : made = true
  · rw [if_pos hmade] at hrest
    obtain ⟨hready, haction⟩ := (hx hrun).2 (by rw [hmade])
    exact hf hready haction hrest
  · rw [if_neg hmade] at hrest
    obtain ⟨rfl, rfl, rfl⟩ := runs_pure_iff.mp hrest
    exact .orderly (.givenUp (.refl _)) _

/-- What comes of a render is kept, and checked with one remark. -/
theorem rendered_inv (turn : Option Turn) {ok : Bool} {message : String} {r : Except E Unit}
    (hprobe : turn.any Turn.isProbe = false)
    (h : (rendered context spot ok message : Step H E Unit).Runs s events r s') :
    Chain (Remark turn) (s.update ({ · with lastRenderFailed := !ok })) events s' := by
  rw [rendered, runs_modifySession_bind_iff] at h
  obtain ⟨-, -, hreport⟩ := expectSuccess_inv turn (by simp [hprobe]) h
  exact hreport

/-- A quad goes from part to part up to its draw, or ends with a part that fails. -/
theorem drawQuad_proceeds (line : Nat) {r : Except Fault Unit} (hquad : test.command = .drawQuad)
    (hready : s.session.IsReady) (haction : s.session.action = .run)
    (h : (drawQuad context spot : Step H Fault Unit).Runs s events r s') :
    Proceeds (QuadEnds context (some (.execute line test))) id s events r s' := by
  rw [drawQuad] at h
  -- The parts are made one after another, each in a session that is still ready: the target,
  refine quadEnds_of_part h (ensureTarget_part hquad hready haction) ?_
  intro t rest hready haction hrest
  rw [runs_modifySession_bind_iff] at hrest
  have hlayout : Move context (some (.execute line test)) t []
      (t.update ({ · with inputElements := [quadElement] })) := .settings t _ _ _ _
  suffices hends : Proceeds (QuadEnds context (some (.execute line test))) id
      (t.update ({ · with inputElements := [quadElement] })) rest r s' from
    hends.after (QuadEnds.after (Chain.single hlayout))
  -- the vertex shader, for which the layout was set,
  refine quadEnds_of_part hrest
    (compileQuad_part hquad (isReady_of_eq hready rfl rfl rfl) haction) ?_
  intro t rest hready haction hrest
  -- and the vertex buffer.
  refine quadEnds_of_part hrest (createResource_part hquad hready haction) ?_
  intro t rest hready haction hrest
  rw [runs_session_bind_iff] at hrest
  obtain ⟨ok, reports, rfl, hreport⟩ := runs_ask_bind_iff.mp hrest
  refine .orderly ?_ _
  exact QuadEnds.drawn (.refl t) hready haction ok
    (rendered_inv _ (by simp [Turn.isProbe, hquad, Command.isProbe]) hreport)

end Quads

/-! ## Commands -/

section Commands

variable {line : Nat} {test : TestLine} {spot : Spot} {r : Except Fault Unit}

/-- A test line that was read comes to its end. -/
abbrev Executed (context : RunContext) (line : Nat) (test : TestLine) (s : RunState H)
    (events : List (Event H)) (s' : RunState H) : Prop :=
  Chain (Act context) (some (.read line test), s) events (some (.execute line test), s')

/-- A command that does not render turns to its execution and goes on from there. -/
theorem executed_of_actsAt (hready : s.session.IsReady) (haction : s.session.action = .run)
    (hcommand : test.command.renders = false)
    (h : ActsAt context (some (.execute line test)) s events s') :
    Executed context line test s (s.noted (.turn (.execute line test)) :: events) s' :=
  .cons (.execute s hready haction hcommand) h

/-- A command that only changes the session is executed by that change. -/
theorem executed_of_modifySession {f : Session H → Session H} (hready : s.session.IsReady)
    (haction : s.session.action = .run) (hcommand : test.command.renders = false)
    (hsettings : Move context (some (.execute line test)) s [] (s.update f))
    (h : (modifySession f : Step H Fault Unit).Runs s events r s') :
    Executed context line test s (s.noted (.turn (.execute line test)) :: events) s' := by
  obtain ⟨rfl, -, rfl⟩ := runs_modifySession_iff.mp h
  exact executed_of_actsAt hready haction hcommand (.single (.move hsettings))

/-- A quad is executed however it ends. -/
theorem executed_of_quadEnds (hready : s.session.IsReady) (haction : s.session.action = .run)
    (hquad : test.command = .drawQuad)
    (h : QuadEnds context (some (.execute line test)) s events s') :
    Executed context line test s (s.noted (.turn (.execute line test)) :: events) s' := by
  cases h with
  | drawn hmade hready' haction' ok hreport =>
    have hchain := Chain.step (.quad hready haction hquad hmade hready' haction' ok)
      (actsAt_of_remarks hreport)
    simpa using hchain
  | givenUp hmade => exact .single (.quadGivenUp hready haction hquad hmade)

/-- The execution of a command in a ready session. -/
theorem execute_proceeds (line : Nat) (hready : s.session.IsReady)
    (haction : s.session.action = .run)
    (h : (execute context spot test.command : Step H Fault Unit).Runs s events r s') :
    Proceeds (Executed context line test) id s (s.noted (.turn (.execute line test)) :: events)
      r s' := by
  have hsettings {f : Session H → Session H} (hcommand : test.command.renders = false)
      (hmove : Move context (some (.execute line test)) s [] (s.update f))
      (h : (modifySession f : Step H Fault Unit).Runs s events r s') :
      Proceeds (Executed context line test) id s
        (s.noted (.turn (.execute line test)) :: events) r s' :=
    .orderly (executed_of_modifySession hready haction hcommand hmove h) r
  have hrendered {ok : Bool} {message : String} {reports : List (Event H)}
      (hprobe : test.command.isProbe = false)
      (h : (rendered context spot ok message : Step H Fault Unit).Runs s reports r s') :
      ActsAt context (some (.execute line test))
        (s.update ({ · with lastRenderFailed := !ok })) reports s' :=
    actsAt_of_remarks (rendered_inv (some (.execute line test)) hprobe h)
  have hacts (hcommand : test.command.renders = false)
      (h : ActsAt context (some (.execute line test)) s events s') :
      Proceeds (Executed context line test) id s
        (s.noted (.turn (.execute line test)) :: events) r s' :=
    .orderly (executed_of_actsAt hready haction hcommand h) r
  -- One case for each command; those that only change settings are alike.
  cases hcommand : test.command with
  | dispatch x y z =>
    rw [hcommand, execute, runs_session_bind_iff] at h
    obtain ⟨ok, reports, rfl, hreport⟩ := runs_ask_bind_iff.mp h
    have hchain := Chain.step (.dispatch s hready haction hcommand ok)
      (hrendered (by rw [hcommand]; rfl) hreport)
    exact .orderly hchain r
  | draw topology vertices instances =>
    rw [hcommand, execute, runs_session_bind_iff] at h
    obtain ⟨ok, reports, rfl, hreport⟩ := runs_ask_bind_iff.mp h
    have hchain := Chain.step (.draw s hready haction hcommand ok)
      (hrendered (by rw [hcommand]; rfl) hreport)
    exact .orderly hchain r
  | drawQuad =>
    rw [hcommand, execute] at h
    have hquad := drawQuad_proceeds line hcommand hready haction h
    cases hquad with
    | orderly hends r => exact .orderly (executed_of_quadEnds hready haction hcommand hends) r
    | crowded hends desc data handle hfull he =>
      exact .crowded (executed_of_quadEnds hready haction hcommand hends) desc data handle
        hfull he
  | clearTarget slot colour =>
    rw [hcommand, execute] at h
    exact hacts (by rw [hcommand]; rfl) (clear_acts hready haction (by rw [hcommand]; rfl) h)
  | clearDepth depth =>
    rw [hcommand, execute] at h
    exact hacts (by rw [hcommand]; rfl) (clear_acts hready haction (by rw [hcommand]; rfl) h)
  | copy source target =>
    rw [hcommand, execute] at h
    exact hacts (by rw [hcommand]; rfl) (copy_acts hready haction (by rw [hcommand]; rfl) h)
  | probe target rect value steps =>
    rw [hcommand, execute] at h
    exact hacts (by rw [hcommand]; rfl) (probe_acts hready haction (by rw [hcommand]; rfl) h)
  | depthFunc | depthBounds | uniform | sampleMask | alphaTest | shadeMode | clipPlane
  | pointSize | pointSprite | fog | fogColour | viewport =>
    rw [hcommand, execute] at h
    exact hsettings (by rw [hcommand]; rfl) (.settings s _ _ _ _) h

/-- How a test line that comes to a command goes: stale stages are compiled again, and then the
    line is left out if something failed, or it is executed. -/
inductive CommandCourse (context : RunContext) (test : TestLine) (line : Nat) (s : RunState H) :
    List (Event H) → Except Fault Unit → RunState H → Prop
  | suppressed {t : RunState H} {refreshed : List (Event H)} (entry : LogEntry)
      (hrefresh : (refreshStages context ShaderType.all : Step H Fault Unit).Runs s refreshed
        (.ok ()) t)
      (hfails : t.session.registry.hasFailures = true ∨ t.session.hasFailedShader = true) :
      CommandCourse context test line s
        (s.noted (.turn (.read line test)) :: (refreshed ++ [t.asked (.log entry) ()])) (.ok ()) t
  | executed {t s' : RunState H} {refreshed executed : List (Event H)} {r : Except Fault Unit}
      (hrefresh : (refreshStages context ShaderType.all : Step H Fault Unit).Runs s refreshed
        (.ok ()) t)
      (hsound : ¬ (t.session.registry.hasFailures = true ∨ t.session.hasFailedShader = true))
      (hexecute : (execute context ⟨line, test.todo, test.bug⟩ test.command).Runs t executed r s') :
      CommandCourse context test line s
        (s.noted (.turn (.read line test)) ::
          (refreshed ++ t.noted (.turn (.execute line test)) :: executed)) r s'

/-- A command is passed over, or executed with fresh stages, or ends with a stage that fails. -/
theorem runCommand_cases
    (h : (runCommand context test line : Step H Fault Unit).Runs s events r s') :
    CommandCourse context test line s events r s' := by
  rw [runCommand] at h
  obtain ⟨rest, rfl, hrest⟩ := runs_note_bind_iff.mp h
  obtain ⟨refreshed, _, t, after, hrefresh, hgate, rfl⟩ | ⟨fault, hrefresh, -⟩ :=
    runs_bind_iff.mp hrest
  · rw [runs_session_bind_iff] at hgate
    split at hgate
    · rename_i hfails
      obtain ⟨⟨⟩, rfl, rfl, rfl⟩ := runs_ask_iff.mp hgate
      exact .suppressed _ hrefresh hfails
    · rename_i hsound
      obtain ⟨executed, rfl, hexecute⟩ := runs_note_bind_iff.mp hgate
      exact .executed hrefresh hsound hexecute
  · cases refreshStages_ok hrefresh

/-- How a test line goes: it comes to a command while test lines are executed, or nothing
    happens. -/
inductive LineCourse (context : RunContext) (text : Text) (line : Nat) (s : RunState H) :
    List (Event H) → Except Fault Unit → RunState H → Prop
  | inactive (haction : s.session.action ≠ .run) : LineCourse context text line s [] (.ok ()) s
  | refused {fault : Fault}
      (hread : TestLine.read ⟨s.session.minimumModel, context.caps.tags⟩ text = .error fault) :
      LineCourse context text line s [] (.error fault) s
  | conditional
      (hread : TestLine.read ⟨s.session.minimumModel, context.caps.tags⟩ text = .ok none) :
      LineCourse context text line s [] (.ok ()) s
  | taken {test : TestLine} {events : List (Event H)} {r : Except Fault Unit} {s' : RunState H}
      (haction : s.session.action = .run)
      (hread : TestLine.read ⟨s.session.minimumModel, context.caps.tags⟩ text = .ok (some test))
      (hcommand : (runCommand context test line).Runs s events r s') :
      LineCourse context text line s events r s'

/-- A test line does nothing unless test lines are executed. -/
theorem runTestLine_cases {text : Text}
    (h : (runTestLine context text line : Step H Fault Unit).Runs s events r s') :
    LineCourse context text line s events r s' := by
  rw [runTestLine, runs_session_bind_iff] at h
  split at h
  · rename_i haction
    -- The line is read for the lowest model of the session.
    rw [qualifierContext, bind_assoc, runs_session_bind_iff, pure_bind] at h
    cases hread : TestLine.read ⟨s.session.minimumModel, context.caps.tags⟩ text with
    | error fault =>
      rw [hread] at h
      obtain ⟨rfl, rfl, rfl⟩ := runs_ofExcept_error_bind_iff.mp h
      exact .refused hread
    | ok command =>
      rw [hread, runs_ofExcept_ok_bind_iff] at h
      cases command with
      | none =>
        obtain ⟨rfl, rfl, rfl⟩ := runs_pure_iff.mp h
        exact .conditional hread
      | some test => exact .taken haction hread h
  · rename_i haction
    obtain ⟨rfl, rfl, rfl⟩ := runs_pure_iff.mp h
    exact .inactive haction

/-- A test line that was read is executed if the session is ready for it. -/
theorem runCommand_proceeds (haction : s.session.action = .run)
    (h : (runCommand context test line : Step H Fault Unit).Runs s events r s') :
    Proceeds (Progress context) id s events r s' := by
  -- Whatever turn it was, the run turns to the line and compiles stale stages again.
  have hread {refreshed : List (Event H)} {t : RunState H}
      (hcourse : Course context (some (.read line test)) s refreshed t) (turn : Option Turn) :
      Chain (Act context) (turn, s) (s.noted (.turn (.read line test)) :: refreshed)
        (some (.read line test), t) :=
    .cons (.read turn s line test haction) (actsAt_of_course hcourse)
  cases runCommand_cases h with
  | suppressed entry hrefresh hfails =>
    -- The line is not executed after a failure.
    obtain ⟨-, -, hcourse, -⟩ := refreshStages_inv line test haction hrefresh
    have hlog : Chain (Remark (some (.read line test))) s' [s'.asked (.log entry) ()] s' :=
      .single (.log s' entry)
    exact .orderly (fun turn => ⟨_, (hread hcourse turn).trans (actsAt_of_remarks hlog)⟩) _
  | executed hrefresh hsound hexecute =>
    rename_i t refreshed executed
    obtain ⟨-, -, hcourse, hfreshened⟩ := refreshStages_inv line test haction hrefresh
    -- No stage is stale after all were compiled again where needed, and none failed.
    have hready : t.session.IsReady := by
      refine ⟨?_, ?_, fun type => hfreshened.fresh type (.inl ?_)⟩
      · simpa using (not_or.mp hsound).1
      · simpa using (not_or.mp hsound).2
      · cases type <;> decide
    have hproceeds := execute_proceeds line hready (hfreshened.action.trans haction) hexecute
    have hafter {rest : List (Event H)} {u : RunState H}
        (hexecuted : Executed context line test t rest u) :
        Progress context s (s.noted (.turn (.read line test)) :: refreshed ++ rest) u :=
      fun turn => ⟨_, (hread hcourse turn).trans hexecuted⟩
    exact hproceeds.after hafter

/-- A test line does nothing unless test lines are executed. -/
theorem runTestLine_proceeds {text : Text}
    (h : (runTestLine context text line : Step H Fault Unit).Runs s events r s') :
    Proceeds (Progress context) id s events r s' := by
  cases runTestLine_cases h with
  | inactive | refused | conditional => exact .orderly (.refl s) _
  | taken haction hread hcommand => exact runCommand_proceeds haction hcommand

end Commands

end ShaderConformance.Step
