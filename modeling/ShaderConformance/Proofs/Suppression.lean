import ShaderConformance.Proofs.CompileOnly
import ShaderConformance.Proofs.Readiness
import ShaderConformance.Proofs.SourceFormats
import ShaderConformance.Proofs.Tolerance

/-!
# Why test lines are suppressed

A test line is not executed while a resource or a stored source is marked as failed.  Every
failed creation was reported when it failed.  A stored source was checked when it failed, at
the end of its block or as the vertex shader of a quad, unless it failed when a test line
compiled it again for other requirements: that is only logged.

## Main definitions

- `CreationReported`: the last creation of a resource failed and was reported
- `CheckedSince`: a compile of a source failed and was checked after it was stored
- `RecompiledUnchecked`: a compile of a source failed at a test line, where it is not checked
- `Explained`: every failure that a session remembers has a cause
- `Suppressed`: something failed that keeps test lines from being executed

## Main statements

- `Explained.isInvariant`: runs keep the causes of what their sessions remember
- `suppressed_of_readLine`: test lines are only left out after failures with such causes
-/

namespace ShaderConformance

variable {H : Type}

/-! ## Causes -/

/-- The report of a failed creation. -/
def creationReport (ref : ResourceRef) (line : Nat) : BackendError → Note
  | .unsupported reason => .skip line s!"{ref}: {reason}"
  | .failed reason =>
    .check { ok := false, todo := false, bug := false, line
             message := s!"Failed to create {ref}: {reason}" }

/-- The last creation of a resource failed and was reported, as a failed check or, where it is
    not supported, as skipped. -/
def CreationReported (history : List (Event H)) (ref : ResourceRef) : Prop :=
  ∃ (s t : RunState H) (desc : ResourceDesc) (data : List UInt8) (error : BackendError)
    (line : Nat) (before after : List (Event H)), desc.ref = ref ∧
      history = before ++ s.asked (.create desc data) (.error error) ::
        t.noted (creationReport ref line error) :: after ∧
      ∀ event ∈ after, event.attempt? ref = none

/-- Whether a stage is given a source at an event. -/
def Event.stores (type : ShaderType) (event : Event H) : Bool :=
  event.stored?.any fun (_, type') => type' = type

/-- A stage was last given a source between two parts of what has happened. -/
def StoredBetween (history before after : List (Event H)) (type : ShaderType)
    (source : ShaderSource) : Prop :=
  (∃ s : RunState H, history = before ++ s.noted (.store type source) :: after) ∧
    ∀ event ∈ after, event.stores type = false

/-- After a source was stored between two parts of what has happened, a check of its failed
    compile was recorded. -/
inductive CheckedSince (before after : List (Event H)) (type : ShaderType) (source : ShaderSource)
    (model : ShaderModel) : Prop
  /-- The source of a block is compiled at its end. -/
  | block (s : RunState H) (header : ShaderHeader) (line : Nat) (error : CompileError)
      (entry : LogEntry) (early late : List (Event H)) (htype : header.type = type)
      (hafter : after = early ++
        s.asked (.compile source type model s.session.options) (.error error) ::
          s.asked (.log entry) () ::
          s.noted (.check (variantCheck header line model (.error error))) :: late)
  /-- The vertex shader of a quad is compiled just before it is stored. -/
  | quad (s t : RunState H) (spot : Step.Spot) (error : CompileError)
      (early late : List (Event H)) (htype : type = .vertex)
      (hbefore : before = early ++
        [s.asked (.compile source type model s.session.options) (.error error)])
      (hafter : after = t.noted (.check (Step.quadCheck spot error)) :: late)

/-- A source that was stored before failed when it was compiled again, which was only logged. -/
def RecompiledUnchecked (context : RunContext) (after : List (Event H)) (type : ShaderType)
    (source : ShaderSource) (model : ShaderModel) : Prop :=
  ∃ (s : RunState H) (error : CompileError) (early late : List (Event H)),
    after = early ++ s.asked (.compile source type model s.session.options) (.error error) ::
      s.asked (.log (Step.recompileEntry context type model error)) () :: late

/-- A stage was given its source, and if it failed for a model it was checked for that model
    since, or it was compiled again unchecked. -/
def StageExplained (context : RunContext) (history : List (Event H)) (type : ShaderType)
    (source : ShaderSource) (stage : Stage) : Prop :=
  ∃ before after, StoredBetween history before after type source ∧
    ∀ model, stage.compiledAt = some model → stage.failed = true →
      CheckedSince before after type source model ∨
        RecompiledUnchecked context after type source model

/-- Every failure that a session remembers has a cause. -/
structure Explained (context : RunContext) (history : List (Event H)) (s : Session H) : Prop where
  created : ∀ ref ∈ s.registry.failed, CreationReported history ref
  stages : ∀ type source, (s.stage type).source = some source →
    StageExplained context history type source (s.stage type)

/-! ## More events -/

section More

variable {context : RunContext} {history before after events : List (Event H)}
  {type : ShaderType} {source : ShaderSource} {model : ShaderModel} {ref : ResourceRef}

/-- A creation that was reported stays so until the next attempt. -/
theorem CreationReported.append (h : CreationReported history ref)
    (hevents : ∀ event ∈ events, event.attempt? ref = none) :
    CreationReported (history ++ events) ref := by
  obtain ⟨s, t, desc, data, error, line, before, after, href, rfl, hafter⟩ := h
  refine ⟨s, t, desc, data, error, line, before, after ++ events, href, by simp, ?_⟩
  exact List.forall_mem_append.mpr ⟨hafter, hevents⟩

/-- A source that was stored stays so until the next one. -/
theorem StoredBetween.append (h : StoredBetween history before after type source)
    (hevents : ∀ event ∈ events, event.stores type = false) :
    StoredBetween (history ++ events) before (after ++ events) type source := by
  obtain ⟨⟨s, rfl⟩, hafter⟩ := h
  exact ⟨⟨s, by simp⟩, List.forall_mem_append.mpr ⟨hafter, hevents⟩⟩

/-- A compile that was checked stays so. -/
theorem CheckedSince.append (h : CheckedSince before after type source model)
    (events : List (Event H)) : CheckedSince before (after ++ events) type source model := by
  cases h with
  | block s header line error entry early late htype hafter =>
    exact .block s header line error entry early (late ++ events) htype (by simp [hafter])
  | quad s t spot error early late htype hbefore hafter =>
    exact .quad s t spot error early (late ++ events) htype hbefore (by simp [hafter])

/-- A compile that was not checked stays so. -/
theorem RecompiledUnchecked.append (h : RecompiledUnchecked context after type source model)
    (events : List (Event H)) :
    RecompiledUnchecked context (after ++ events) type source model := by
  obtain ⟨s, error, early, late, rfl⟩ := h
  exact ⟨s, error, early, late ++ events, by simp⟩

/-- A stage with the same source that remembers no other failure is explained as before. -/
theorem StageExplained.append {stage stage' : Stage}
    (h : StageExplained context history type source stage)
    (hevents : ∀ event ∈ events, event.stores type = false)
    (hstage : ∀ model, stage'.compiledAt = some model → stage'.failed = true →
      stage.compiledAt = some model ∧ stage.failed = true) :
    StageExplained context (history ++ events) type source stage' := by
  obtain ⟨before, after, hstored, hcause⟩ := h
  refine ⟨before, after ++ events, hstored.append hevents, fun model hat hfailed => ?_⟩
  obtain ⟨hat, hfailed⟩ := hstage model hat hfailed
  obtain hchecked | hsilent := hcause model hat hfailed
  · exact .inl (hchecked.append events)
  · exact .inr (hsilent.append events)

end More

/-- Nothing is created or stored at an event. -/
structure Event.IsIncidental (event : Event H) : Prop where
  attempt : ∀ ref, event.attempt? ref = none
  stores : ∀ type, event.stores type = false

/-- What is quiet is incidental. -/
theorem Event.isIncidental_of_isQuiet {session : Session H} {deed : Deed H} (answer : deed.Answer)
    (h : deed.isQuiet = true) : Event.IsIncidental (⟨⟨session, deed⟩, answer⟩ : Event H) := by
  rcases deed with q | n
  · cases q <;> first | exact ⟨fun _ => rfl, fun _ => rfl⟩ | cases h
  · cases n <;> first | exact ⟨fun _ => rfl, fun _ => rfl⟩ | cases h

/-- To log is incidental. -/
theorem Event.isIncidental_log (s : RunState H) (entry : LogEntry) :
    (s.asked (.log entry) ()).IsIncidental := ⟨fun _ => rfl, fun _ => rfl⟩

/-- A check is incidental. -/
theorem Event.isIncidental_check (s : RunState H) (c : Check) : (s.noted (.check c)).IsIncidental :=
  ⟨fun _ => rfl, fun _ => rfl⟩

/-- A check is noted first, and then at most logged. -/
theorem Step.check_reports {E : Type} {context : RunContext} {c : Check} {s s' : RunState H}
    {events : List (Event H)} {r : Except E Unit}
    (h : (check context c : Step H E Unit).Runs s events r s') :
    r = .ok () ∧ s'.session = s.session ∧
      ∃ logged, events = s.noted (.check c) :: logged ∧ ∀ event ∈ logged, event.IsIncidental := by
  obtain ⟨rfl, hr, rfl⟩ := runs_check_iff.mp h
  refine ⟨hr, rfl, _, rfl, fun event hevent => ?_⟩
  obtain ⟨entry, -, rfl⟩ := List.mem_map.mp hevent
  exact Event.isIncidental_log s entry

namespace Explained

open Step

variable {context : RunContext} {history events : List (Event H)} {s s' : Session H}

/-- While nothing is created or stored, what is remembered is explained as before if no failure
    is added to it. -/
theorem asides (h : Explained context history s) (hevents : ∀ event ∈ events, event.IsIncidental)
    (hcreated : ∀ ref ∈ s'.registry.failed, ref ∈ s.registry.failed)
    (hsource : ∀ type, (s'.stage type).source = (s.stage type).source)
    (hstages : ∀ type model, (s'.stage type).compiledAt = some model →
      (s'.stage type).failed = true →
        (s.stage type).compiledAt = some model ∧ (s.stage type).failed = true) :
    Explained context (history ++ events) s' where
  created ref href :=
    (h.created ref (hcreated ref href)).append fun event hevent =>
      (hevents event hevent).attempt ref
  stages type source hstored :=
    (h.stages type source (hsource type ▸ hstored)).append
      (fun event hevent => (hevents event hevent).stores type) (hstages type)

/-- Only the failures and the stages of a session are to be explained. -/
theorem congr (h : Explained context history s) (hevents : ∀ event ∈ events, event.IsIncidental)
    (hcreated : s'.registry.failed = s.registry.failed) (hstage : s'.stage = s.stage) :
    Explained context (history ++ events) s' :=
  h.asides hevents (fun _ href => hcreated ▸ href) (fun _ => hstage ▸ rfl)
    fun type model hat hfailed => by
      rw [hstage] at hat hfailed
      exact ⟨hat, hfailed⟩

/-! ## Resources -/

/-- To register a resource clears its failure, and is incidental. -/
theorem register_clears {desc : ResourceDesc} {handle : H} {r : Except Fault Unit}
    {s s' : RunState H} (h : (register desc handle : Step H Fault Unit).Runs s events r s') :
    s'.session.stage = s.session.stage ∧
      s'.session.registry.failed = (s.session.registry.clearFailed desc.ref).failed ∧
      ∀ event ∈ events, event.IsIncidental := by
  obtain ⟨replaced, registry, hinsert, -, rfl, rfl⟩ | ⟨-, -, rfl, rfl⟩ := register_inv h
  · refine ⟨rfl, (Registry.insert_ok hinsert).1, fun event hevent => ?_⟩
    obtain ⟨old, -, rfl⟩ := List.mem_map.mp hevent
    exact ⟨fun _ => rfl, fun _ => rfl⟩
  · exact ⟨rfl, rfl, by simp⟩

/-- A failed creation is reported at once. -/
theorem creationFailed_reports {desc : ResourceDesc} {line : Nat} {error : BackendError}
    {r : Except Fault Unit} {s s' : RunState H}
    (h : (creationFailed context desc line error : Step H Fault Unit).Runs s events r s') :
    s'.session = (s.withRegistry (·.markFailed desc.ref)).session ∧
      ∃ logged, events = (s.withRegistry (·.markFailed desc.ref)).noted
          (creationReport desc.ref line error) :: logged ∧
        ∀ event ∈ logged, event.IsIncidental := by
  unfold creationFailed at h
  rw [runs_modifySession_bind_iff] at h
  cases error with
  | unsupported reason =>
    obtain ⟨rfl, -, rfl⟩ := runs_skip_iff.mp h
    refine ⟨rfl, _, rfl, fun event hevent => ?_⟩
    rw [List.mem_singleton.mp hevent]
    exact Event.isIncidental_log _ _
  | failed reason =>
    exact (check_reports h).2

/-- A creation explains the failure that it leaves. -/
theorem createResource_upholds (desc : ResourceDesc) (data : List UInt8) (line : Nat) :
    Upholds (Explained context) (createResource context desc data line : Step H Fault Bool) := by
  intro s events r s' hrun history h
  rw [createResource] at hrun
  obtain ⟨_, asked, rfl, hask⟩ := runs_ask_bind_iff.mp hrun
  obtain ⟨created, rest, rfl, hrest⟩ := runs_ask_bind_iff.mp hask
  -- The try does not count for other resources.
  have hother {rest : List (Event H)} (hevents : ∀ event ∈ rest, event.IsIncidental)
      {ref : ResourceRef} (hne : ref ≠ desc.ref) (href : ref ∈ s.session.registry.failed) :
      CreationReported (history ++
        s.asked (.log ⟨.debug, .run, creationText context desc line⟩) () ::
        s.asked (.create desc data) created :: rest) ref := by
    refine (h.created ref href).append ?_
    simp only [List.forall_mem_cons]
    refine ⟨rfl, ?_, fun event hevent => (hevents event hevent).attempt ref⟩
    simp [Event.attempt?, RunState.asked, Ne.symm hne]
  have hstages {rest : List (Event H)} (hevents : ∀ event ∈ rest, event.IsIncidental)
      (type : ShaderType) {source : ShaderSource}
      (hsource : (s.session.stage type).source = some source) :
      StageExplained context (history ++
        s.asked (.log ⟨.debug, .run, creationText context desc line⟩) () ::
        s.asked (.create desc data) created :: rest) type source (s.session.stage type) := by
    refine (h.stages type source hsource).append ?_ fun _ hat hfailed => ⟨hat, hfailed⟩
    simp only [List.forall_mem_cons]
    exact ⟨rfl, rfl, fun event hevent => (hevents event hevent).stores type⟩
  cases created with
  | ok handle =>
    obtain ⟨_, hregister⟩ := runs_of_bind_pure hrest
    obtain ⟨hstage, hcleared, hevents⟩ := register_clears hregister
    refine ⟨fun ref href => ?_, fun type source hsource => ?_⟩
    · rw [hcleared] at href
      obtain ⟨hne, href⟩ := Registry.mem_failed_clearFailed.mp href
      exact hother hevents hne href
    · rw [hstage] at hsource ⊢
      exact hstages hevents type hsource
  | error error =>
    obtain ⟨_, hfailed⟩ := runs_of_bind_pure hrest
    obtain ⟨hsession, logged, rfl, hlogged⟩ := creationFailed_reports hfailed
    have hevents : ∀ event ∈ (s.withRegistry (·.markFailed desc.ref)).noted
        (creationReport desc.ref line error) :: logged, event.IsIncidental := by
      refine List.forall_mem_cons.mpr ⟨?_, hlogged⟩
      cases error <;> exact ⟨fun _ => rfl, fun _ => rfl⟩
    rw [hsession]
    -- The failure of this try is reported here, the others were before.
    refine ⟨fun ref href => ?_, fun type source hsource => hstages hevents type hsource⟩
    by_cases hne : ref = desc.ref
    · exact ⟨s, _, desc, data, error, line, history ++ [_], logged, hne.symm, by
        rw [hne, List.append_assoc]
        rfl, fun event hevent => (hlogged event hevent).attempt ref⟩
    · exact hother hevents hne ((Registry.mem_failed_markFailed.mp href).resolve_left hne)

/-! ## Stages -/

/-- Another stage, whose failure is explained. -/
theorem setStage (h : Explained context history s) {type : ShaderType} {stage : Stage}
    (hattempts : ∀ event ∈ events, ∀ ref, event.attempt? ref = none)
    (hothers : ∀ type' ≠ type, ∀ event ∈ events, event.stores type' = false)
    (hstage : ∀ source, stage.source = some source →
      StageExplained context (history ++ events) type source stage) :
    Explained context (history ++ events) (s.setStage type stage) where
  created ref href := (h.created ref href).append fun event hevent => hattempts event hevent ref
  stages type' source hsource := by
    by_cases htype : type' = type
    · simp only [Session.setStage, htype, if_true] at hsource ⊢
      exact hstage source hsource
    · simp only [Session.setStage, htype, if_false] at hsource ⊢
      exact (h.stages type' source hsource).append (hothers type' htype) fun _ hat hfailed =>
        ⟨hat, hfailed⟩

/-- A new source has not failed yet. -/
theorem setSource {s : RunState H} (h : Explained context history s.session) (type : ShaderType)
    (source : ShaderSource) :
    Explained context (history ++ [s.noted (.store type source)])
      (s.session.setSource type source) := by
  refine h.setStage (fun event hevent ref => ?_) (fun type' htype event hevent => ?_) ?_
  · rw [List.mem_singleton.mp hevent]
    rfl
  · rw [List.mem_singleton.mp hevent]
    simp [Event.stores, Event.stored?, RunState.noted, Ne.symm htype]
  · rintro _ ⟨⟩
    exact ⟨history, [], ⟨⟨s, rfl⟩, by simp⟩, fun _ hat => by cases hat⟩

/-- A compile of a stored source whose failure has a cause. -/
theorem setCompiled (h : Explained context history s)
    (hevents : ∀ event ∈ events, event.IsIncidental) (type : ShaderType) (model : ShaderModel)
    {compiled : Option CompiledShader}
    (hcause : compiled = none → ∀ before after source, (s.stage type).source = some source →
      CheckedSince before (after ++ events) type source model ∨
        RecompiledUnchecked context (after ++ events) type source model) :
    Explained context (history ++ events) (s.setCompiled type model compiled) := by
  refine h.setStage (fun event hevent => (hevents event hevent).attempt)
    (fun type' _ event hevent => (hevents event hevent).stores type') fun source hsource => ?_
  obtain ⟨before, after, hstored, -⟩ := h.stages type source hsource
  refine ⟨before, after ++ events,
    hstored.append fun event hevent => (hevents event hevent).stores type, ?_⟩
  rintro _ ⟨⟩ hfailed
  exact hcause (by simpa [Stage.withCompiled] using hfailed) before after source hsource

/-- What is explained does not depend on quiet events. -/
theorem isSteady : IsSteady (Explained (H := H) context) where
  quiet _ _ deed answer hquiet h := by
    refine h.congr (fun event hevent => ?_) rfl rfl
    rw [List.mem_singleton.mp hevent]
    exact Event.isIncidental_of_isQuiet answer hquiet
  settings _ _ _ _ _ _ _ h := ⟨h.created, h.stages⟩
  samplers _ _ _ h := ⟨h.created, h.stages⟩

/-! ## Shaders -/

/-- A compile is checked once, and all else is logged. -/
theorem checkCompile_reports {E : Type} {header : ShaderHeader} {model : ShaderModel}
    {result : Except CompileError CompiledShader} {line : Nat} {r : Except E Unit}
    {s s' : RunState H}
    (h : (checkCompile context header model result line : Step H E Unit).Runs s events r s') :
    r = .ok () ∧ s'.session = s.session ∧ ∃ entries logged,
      events = entries.map (fun entry => s.asked (.log entry) ()) ++
        s.noted (.check (variantCheck header line model result)) :: logged ∧
      (∀ event ∈ logged, event.IsIncidental) ∧
      ∀ error, result = .error error → ∃ entry, entries = [entry] := by
  cases result with
  | ok compiled =>
    obtain ⟨hr, hsession, logged, rfl, hlogged⟩ := check_reports h
    exact ⟨hr, hsession, [], logged, rfl, hlogged, nofun⟩
  | error error =>
    obtain ⟨⟨⟩, rest, rfl, hcheck⟩ := runs_ask_bind_iff.mp h
    obtain ⟨hr, hsession, logged, rfl, hlogged⟩ := check_reports hcheck
    exact ⟨hr, hsession, [_], logged, rfl, hlogged, fun _ _ => ⟨_, rfl⟩⟩

/-- The source of a block is checked when it is compiled. -/
theorem runBlock_upholds (header : ShaderHeader) (source : ShaderSource) (line : Nat)
    {s s' : RunState H} {r : Except Fault Unit}
    (hrun : (runBlock context header source line : Step H Fault Unit).Runs s events r s')
    (hsource : (s.session.stage header.type).source = some source)
    (h : Explained context history s.session) :
    Explained context (history ++ events) s'.session := by
  rw [runBlock] at hrun
  split at hrun
  · rw [runs_session_bind_iff] at hrun
    obtain ⟨_, result, t, _, ⟨rfl, rfl⟩, hrest, rfl⟩ := Runs.bind_inv hrun compile_inv
    -- Reporting never fails, so the result is stored.
    obtain ⟨reports, _, u, after, hcheck, hset, rfl⟩ | ⟨_, hcheck, -⟩ := runs_bind_iff.mp hrest
    · obtain ⟨-, hsession, entries, logged, rfl, hlogged, hentries⟩ := checkCompile_reports hcheck
      obtain ⟨rfl, -, rfl⟩ := runs_modifySession_iff.mp hset
      rw [RunState.session_update, hsession]
      refine h.setCompiled ?_ header.type _ fun hnone before early source' hsource' => ?_
      · simp only [List.singleton_append, List.append_nil, List.forall_mem_append,
          List.forall_mem_cons, List.forall_mem_map]
        exact ⟨⟨fun _ => rfl, fun _ => rfl⟩, fun entry _ => Event.isIncidental_log t entry,
          Event.isIncidental_check t _, hlogged⟩
      · -- The failure to explain is the one this block has just reported.
        obtain rfl : source = source' := Option.some.inj (hsource ▸ hsource')
        cases result with
        | ok compiled => cases hnone
        | error error =>
          obtain ⟨entry, rfl⟩ := hentries error rfl
          exact .inl (.block t header line error entry early logged rfl (by simp))
    · cases (checkCompile_reports hcheck).1
  · -- The block is dropped with a line of the log, and nothing is stored.
    obtain ⟨_, rest, rfl, hskip⟩ := runs_ask_bind_iff.mp hrun
    obtain ⟨rfl, -, rfl⟩ := runs_modifySession_iff.mp hskip
    refine h.congr (fun event hevent => ?_) rfl rfl
    rw [List.mem_singleton.mp hevent]
    exact ⟨fun _ => rfl, fun _ => rfl⟩

/-- The end of a shader block explains the failure that it leaves. -/
theorem finishShader_upholds (header : ShaderHeader) (text : Text) (line : Nat) :
    Upholds (Explained context) (finishShader context header text line : Step H Fault Unit) := by
  intro s events r s' hrun history h
  rw [finishShader] at hrun
  obtain ⟨rest, rfl, hrest⟩ := runs_note_bind_iff.mp hrun
  rw [runs_modifySession_bind_iff, runs_session_bind_iff] at hrest
  rw [List.append_cons]
  have hset := h.setSource header.type ⟨text, header.format⟩
  split at hrest
  · obtain ⟨rfl, -, rfl⟩ := runs_pure_iff.mp hrest
    rwa [List.append_nil]
  · exact isSteady.compileBlock_upholds header _ line hrest hset
  · refine runBlock_upholds header _ line hrest ?_ hset
    simp [Session.setSource, Session.setStage, Stage.ofSource]

/-- A stage that is compiled again is not checked. -/
theorem refreshStage_upholds (type : ShaderType) :
    Upholds (Explained context) (refreshStage context type : Step H Fault Unit) := by
  intro s events r s' hrun history h
  cases (refreshStage_cases hrun).2 with
  | fresh => rwa [List.append_nil]
  | again hsource hstale result =>
    refine h.setCompiled ?_ type _ fun hnone before early source' hsource' => ?_
    · exact List.forall_mem_cons.mpr ⟨⟨fun _ => rfl, fun _ => rfl⟩,
        List.forall_mem_map.mpr fun entry _ => Event.isIncidental_log s entry⟩
    · cases result with
      | ok compiled => cases hnone
      | error error =>
        -- What is logged is all that is said of it.
        obtain rfl := Option.some.inj (hsource ▸ hsource')
        exact .inr ⟨s, error, early, [], rfl⟩

/-- The vertex shader of a quad is checked after it is stored. -/
theorem compileQuad_upholds (spot : Spot) :
    Upholds (Explained context) (compileQuad context spot : Step H Fault Bool) := by
  intro s events r s' hrun history h
  obtain ⟨made, rfl, hcases⟩ := compileQuad_cases hrun
  have hstored (result : Except CompileError CompiledShader) :
      Explained context (history ++ quadEvents s result)
        (s.session.setSource .vertex (quadShader s.session)) := by
    have hcompiled := isSteady.quiet (.request (.compile (quadShader s.session) .vertex
      s.session.minimumModel s.session.options)) result rfl h
    rw [quadEvents, List.append_cons]
    exact hcompiled.setSource .vertex (quadShader s.session)
  cases hcases with
  | compiled compiled =>
    have hset : Explained context (history ++ quadEvents s (.ok compiled) ++ [])
        (withQuad s (.ok compiled)).session :=
      (hstored (.ok compiled)).setCompiled (by simp) .vertex _ fun hnone => by cases hnone
    rwa [List.append_nil] at hset
  | failed error hcheck =>
    obtain ⟨-, hsession, logged, rfl, hlogged⟩ := check_reports hcheck
    have hevents := List.forall_mem_cons.mpr
      ⟨Event.isIncidental_check (withQuad s (.error error)) (quadCheck spot error), hlogged⟩
    rw [hsession, ← List.append_assoc]
    -- The compile is the last event before the store, and its check the first one after it.
    refine (hstored (.error error)).setStage (fun event hevent => (hevents event hevent).attempt)
      (fun type' _ event hevent => (hevents event hevent).stores type') fun source hsource => ?_
    obtain rfl : quadShader s.session = source := by
      simpa [Stage.withCompiled, Session.setSource, Session.setStage, Stage.ofSource] using hsource
    refine ⟨history ++ [s.asked (.compile (quadShader s.session) .vertex s.session.minimumModel
      s.session.options) (.error error)], _, ⟨⟨s, by simp [quadEvents]⟩,
      fun event hevent => (hevents event hevent).stores .vertex⟩, ?_⟩
    rintro _ ⟨⟩ -
    exact .inl (.quad s _ spot error history logged rfl rfl rfl)

/-- Requirements forget for which model a stage failed. -/
theorem finishRequire_upholds (block : RequireBlock) :
    Upholds (Explained context) (finishRequire context block : Step H Fault Unit) := by
  intro s events r s' hrun history h
  rw [finishRequire, runs_modifySession_bind_iff] at hrun
  -- Either way every compile result is dropped, so no failed stage is left to explain.
  have hforgets {session : Session H} {events : List (Event H)}
      (hfailed : session.registry.failed = s.session.registry.failed)
      (hstage : session.stage = fun type => { s.session.stage type with compiledAt := none })
      (hevents : ∀ event ∈ events, event.IsIncidental) :
      Explained context (history ++ events) session :=
    h.asides hevents (fun _ href => hfailed ▸ href) (fun _ => by rw [hstage])
      fun type model hat => by
        rw [hstage] at hat
        cases hat
  split at hrun
  · obtain ⟨_, _, rfl, hskip⟩ := runs_ask_bind_iff.mp hrun
    obtain ⟨rfl, -, rfl⟩ := runs_modifySession_iff.mp hskip
    refine hforgets rfl rfl ?_
    simp only [List.forall_mem_singleton]
    exact Event.isIncidental_log _ _
  · obtain ⟨rfl, -, rfl⟩ := runs_modifySession_iff.mp hrun
    exact hforgets rfl rfl (by simp)

/-- Every failure of a session is explained by its history. -/
theorem isInvariant (context : RunContext) : IsInvariant (H := H) context (Explained context) where
  toIsSteady := isSteady
  require := finishRequire_upholds
  shader := finishShader_upholds
  resource desc data line _ := createResource_upholds desc data line
  refresh := refreshStage_upholds
  quad := compileQuad_upholds

/-- At the start nothing has failed. -/
theorem start (context : RunContext) :
    Explained context [] (RunState.start (H := H) context).session where
  created _ href := absurd href List.not_mem_nil
  stages _ _ hsource := by cases hsource

end Explained

/-! ## Suppressed test lines -/

/-- Something failed that keeps test lines from being executed, and its cause is known. -/
structure Suppressed (context : RunContext) (history : List (Event H)) (s : Session H) : Prop where
  fails : s.registry.hasFailures = true ∨ s.hasFailedShader = true
  created : ∀ ref ∈ s.registry.failed, CreationReported history ref
  compiled : ∀ type, (s.stage type).isFailed = true →
    ∃ source before after, (s.stage type).source = some source ∧
      StoredBetween history before after type source ∧
        (CheckedSince before after type source s.minimumModel ∨
          RecompiledUnchecked context after type source s.minimumModel)

section Suppressed

open Step

variable {context : RunContext} {current : OpenBlock} {lines : List Text} {text : Text}
  {test : TestLine} {line : Nat} {history events : List (Event H)} {s s' : RunState H}

/-- Where no stage is stale, a failure of a stage is one for the lowest model. -/
theorem Explained.suppressed {s : Session H} (h : Explained context history s)
    (hfails : s.registry.hasFailures = true ∨ s.hasFailedShader = true)
    (hfresh : ∀ type, s.IsFresh type) : Suppressed context history s where
  fails := hfails
  created := h.created
  compiled type hfailed := by
    obtain ⟨hsome, hfailed⟩ := Bool.and_eq_true_iff.mp hfailed
    obtain ⟨source, hsource⟩ := Option.isSome_iff_exists.mp hsome
    have hat : (s.stage type).compiledAt = some s.minimumModel := by
      simpa [Session.IsFresh, Stage.isStale, hsource] using hfresh type
    -- The failure that is remembered is the one whose cause is known.
    obtain ⟨before, after, hstored, hcause⟩ := h.stages type source hsource
    exact ⟨source, before, after, hsource, hstored, hcause _ hat hfailed⟩

/-- A test line is not executed only where something failed, which nothing stale hides. -/
theorem fails_of_runCommand {r : Except Fault Unit} (haction : s.session.action = .run)
    (h : (runCommand context test line : Step H Fault Unit).Runs s events r s')
    (hsuppressed : ∀ event ∈ events, event.executes test = false) :
    (s'.session.registry.hasFailures = true ∨ s'.session.hasFailedShader = true) ∧
      ∀ type, s'.session.IsFresh type := by
  cases runCommand_cases h with
  | suppressed entry hrefresh hfails =>
    obtain ⟨-, -, -, hfreshened⟩ := refreshStages_inv line test haction hrefresh
    exact ⟨hfails, fun type => hfreshened.fresh type (.inl (by cases type <;> decide))⟩
  | executed hrefresh hsound hexecute =>
    -- Otherwise the run turns to the execution of the line.
    rename_i t refreshed executed
    have hnot := hsuppressed (t.noted (.turn (.execute line test))) (by simp)
    simp [Event.executes, Event.turn?, RunState.noted] at hnot

/-- A command that is passed over has a failure before it. -/
theorem fails_of_runTestLine {r : Except Fault Unit} (haction : s.session.action = .run)
    (hread : TestLine.read ⟨s.session.minimumModel, context.caps.tags⟩ text = .ok (some test))
    (h : (runTestLine context text line : Step H Fault Unit).Runs s events r s')
    (hsuppressed : ∀ event ∈ events, event.executes test = false) :
    (s'.session.registry.hasFailures = true ∨ s'.session.hasFailedShader = true) ∧
      ∀ type, s'.session.IsFresh type := by
  rw [runTestLine, runs_session_bind_iff, if_pos haction, qualifierContext, bind_assoc,
    runs_session_bind_iff, pure_bind, hread, runs_ofExcept_ok_bind_iff] at h
  exact fails_of_runCommand haction h hsuppressed

/-- In the body of a test block every line that says something is a test line. -/
theorem runs_readLine_test {r : Except LocatedFault OpenBlock} (htest : current.block = .test)
    (hbody : text.head? ≠ some '[') (hspeaks : isSilent text = false)
    (h : (readLine context current text line).Runs s events r s') :
    ∃ logged events' r', events = s.asked (.log logged) () :: events' ∧
      (runTestLine context text line : Step H Fault Unit).Runs s events' r' s' := by
  rw [readLine, if_neg hbody, bodyLine, htest] at h
  simp only [Block.collect?, hspeaks, Bool.false_eq_true, if_false] at h
  obtain ⟨⟨⟩, rest, rfl, hrest⟩ := runs_ask_bind_iff.mp h
  obtain ⟨_, htake⟩ := runs_of_bind_pure hrest
  obtain ⟨_, htake, -⟩ := runs_mapFault_iff.mp htake
  obtain ⟨r', hrun⟩ := runs_of_bind_pure htake
  exact ⟨_, rest, r', rfl, hrun⟩

/-- While test lines are executed, a line of a test block that comes to a command is left out only
    after a failure.  Every failed creation was reported when it failed.  Every source that is
    marked as failed has failed for the lowest model since it was stored; the failure was checked,
    or it was one of a test line that compiled the source again, which is only logged. -/
theorem suppressed_of_readLine {r : Except LocatedFault OpenBlock}
    (hlines : (readOpen context ⟨.none, 0⟩ 1 lines).Runs (.start context) history (.ok current) s)
    (htest : current.block = .test) (hbody : text.head? ≠ some '[')
    (hspeaks : isSilent text = false) (haction : s.session.action = .run)
    (hread : TestLine.read ⟨s.session.minimumModel, context.caps.tags⟩ text = .ok (some test))
    (h : (readLine context current text line).Runs s events r s')
    (hsuppressed : ∀ event ∈ events, event.executes test = false) :
    Suppressed context (history ++ events) s'.session := by
  have hinvariant := Explained.isInvariant (H := H) context
  have hexplained : Explained context (history ++ events) s'.session :=
    hinvariant.readLine_upholds _ _ _ h
      (hinvariant.readOpen_upholds _ _ _ hlines (Explained.start context))
  obtain ⟨_, _, _, rfl, hrun⟩ := runs_readLine_test htest hbody hspeaks h
  obtain ⟨hfails, hfresh⟩ := fails_of_runTestLine haction hread hrun fun event hevent =>
    hsuppressed event (List.mem_cons_of_mem _ hevent)
  exact hexplained.suppressed hfails hfresh

/-! A source that compiles at the end of its block, but not for later requirements. -/

/-- A compiler that refuses shader model 4.0. -/
def refusing : Journal.Script := ⟨true, false, .only .sm4_0, ⟨0⟩⟩

/-- What a run with this compiler is about. -/
def refusedContext : RunContext := ⟨"refused", .run, .plain⟩

/-- What the lines up to a test block come to. -/
def refusedStart : Except LocatedFault OpenBlock × RunState Nat :=
  journalEnd refusing none (readOpen refusedContext ⟨.none, 0⟩ 1
    (["[pixel shader]", "body", "[require]", "shader model >= 4.0", "[test]"].map String.toList))
    (.start refusedContext)

/-- A line of the test block. -/
def refusedLine : Step Nat LocatedFault OpenBlock :=
  readLine refusedContext ⟨.test, 5⟩ "sample mask 1".toList 6

/-- A test block that is open on a line is that block. -/
theorem eq_ok_test_of_any {E : Type} {result : Except E OpenBlock} {line : Nat}
    (h : result.toOption.any (fun current =>
      match current with
      | ⟨.test, line'⟩ => line' = line
      | _ => false) = true) : result = .ok ⟨.test, line⟩ := by
  cases result with
  | error fault => simp [Except.toOption] at h
  | ok current =>
    obtain ⟨block, line'⟩ := current
    cases block with
    | test =>
      obtain rfl : line' = line := by simpa [Except.toOption] using h
      rfl
    | _ => simp [Except.toOption] at h

/-- The line is not executed, although the only check of the run passed. -/
theorem suppressed_of_readLine_refused :
    let last := (journalEnd refusing none refusedLine refusedStart.2).2
    last.summary = Summary.zero.count .pass ∧ ∃ history, Suppressed refusedContext
      (history ++ journalTrace refusing none refusedLine refusedStart.2) last.session := by
  have hlines := runs_journalTrace refusing none (readOpen refusedContext ⟨.none, 0⟩ 1
    (["[pixel shader]", "body", "[require]", "shader model >= 4.0", "[test]"].map String.toList))
    (.start refusedContext)
  have hcurrent : refusedStart.1 = .ok ⟨.test, 5⟩ := eq_ok_test_of_any (by decide +kernel)
  rw [refusedStart] at hcurrent
  rw [hcurrent] at hlines
  have haction : refusedStart.2.session.action = .run := by decide +kernel
  have hread : TestLine.read ⟨refusedStart.2.session.minimumModel, []⟩ "sample mask 1".toList =
      .ok (some ⟨false, false, .sampleMask 1⟩) := eq_ok_of_toOption (by decide +kernel)
  have hsuppressed := suppressed_of_readLine hlines rfl (by decide) (by decide) haction hread
    (runs_journalTrace refusing none refusedLine refusedStart.2) (by decide +kernel)
  exact ⟨by decide +kernel, _, hsuppressed⟩

end Suppressed

end ShaderConformance
