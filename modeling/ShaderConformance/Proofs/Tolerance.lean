import ShaderConformance.Proofs.Reading
import ShaderConformance.Proofs.Reports

/-!
# Failures of test lines

A failing answer to a test line ends its execution, and is counted once.  The qualifiers of
the line say what it is counted as, so that a failure which is expected is tolerated.  The
creation of a resource knows nothing of them, also where a quad needs the resource.

## Main definitions

- `Event.fails`: an answer is a failure for a command
- `Event.countedAs`: how a failure is counted
- `CountsFailures`: a step ends with its first failing answer and counts it

## Main statements

- `execute_countsFailures`: the execution of every command counts its failures
- `failure_counted_of_runTestLine`: what a failure is counted as where failure is expected
-/

namespace ShaderConformance

variable {H : Type}

/-- Whether a comparison found a mismatch. -/
def foundMismatch : Except ArithmeticError (Option ProbeMismatch) → Bool
  | .ok (some _) => true
  | .ok none | .error _ => false

/-- Whether what was read back of a resource is not what a command expects.  Contents that do
    not fit the command are refused. -/
def Command.misses : Command → ResourceDesc → Readback → Bool
  | .probe target rect value steps, desc, r =>
    match Step.probeArea desc target rect with
    | .ok (_, area) =>
      (Step.checkProbe r area value).isOk && foundMismatch (r.verdict area value steps)
    | .error _ => false
  | _, _, _ => false

namespace Event

/-- Whether an answer is a failure while a command is executed.  A run that breaks off counts
    nothing. -/
def fails (command : Command) : Event H → Bool
  | ⟨⟨_, .request (.create _ _)⟩, .error _⟩ => true
  | ⟨⟨_, .request (.compile _ _ _ _)⟩, .error _⟩ => true
  | ⟨⟨_, .request (.clear _ _)⟩, ok⟩ => !ok
  | ⟨⟨_, .request (.draw _ _ _ _)⟩, ok⟩ => !ok
  | ⟨⟨_, .request (.dispatch _ _ _ _)⟩, ok⟩ => !ok
  | ⟨⟨_, .request (.copy _ _)⟩, ok⟩ => !ok
  | ⟨⟨_, .request (.readback _ _)⟩, .ok none⟩ => true
  | ⟨⟨_, .request (.readback resource _)⟩, .ok (some r)⟩ => command.misses resource.desc r
  | _ => false

/-- The summary after a failure that is expected to come to an outcome.  What is expected does
    not reach the creation of resources. -/
def countedAs (event : Event H) (outcome : Outcome) (summary : Summary) : Summary :=
  match event with
  | ⟨⟨_, .request (.create _ _)⟩, .error (.unsupported _)⟩ => summary.skip
  | ⟨⟨_, .request (.create _ _)⟩, .error (.failed _)⟩ => summary.count .fail
  | _ => summary.count outcome

/-- Whether the execution of a test line begins. -/
def executes (test : TestLine) (event : Event H) : Bool :=
  match event.turn? with
  | some (.execute _ test') => test' = test
  | _ => false

end Event

namespace RunState

variable (s : RunState H) (command : Command)

/-- A note is no failure. -/
@[simp] theorem fails_noted (n : Note) : (s.noted n).fails command = false := rfl

/-- To log is no failure. -/
@[simp] theorem fails_log (entry : LogEntry) :
    (s.asked (.log entry) ()).fails command = false := rfl

end RunState

namespace Step

variable {E T : Type} {context : RunContext} {spot : Spot} {command : Command} {s s' t : RunState H}
  {events rest : List (Event H)}

/-- What a failure at a spot comes to. -/
def Spot.failure (spot : Spot) : Outcome := .classify false spot.todo spot.bug

/-- A step ends with a value after an answer that is a failure, and the failure is counted,
    once. -/
def CountsFailures (spot : Spot) (command : Command) (lost : T) (x : Step H Fault T) : Prop :=
  ∀ ⦃s events r s'⦄, x.Runs s events r s' → ∀ event ∈ events, event.fails command = true →
    r = .ok lost ∧ s'.summary = event.countedAs spot.failure s.summary

/-! ## Reports -/

/-- A check is no failure of a request. -/
theorem check_fails {c : Check} {r : Except E Unit}
    (h : (check context c : Step H E Unit).Runs s events r s') :
    ∀ event ∈ events, event.fails command = false := by
  obtain ⟨rfl, -⟩ := runs_check_iff.mp h
  intro event hevent
  obtain rfl | hevent := List.mem_cons.mp hevent
  · rfl
  · obtain ⟨entry, -, rfl⟩ := List.mem_map.mp hevent
    rfl

/-- A report after an answer, which is a failure unless the answer is a success. -/
theorem counted_of_expectSuccess {answered : Event H} {ok : Bool} {message : String}
    {r : Except Fault Unit} (hfails : answered.fails command = !ok)
    (hcounted : answered.countedAs spot.failure t.summary =
      t.summary.count spot.failure)
    (h : (expectSuccess context spot ok message : Step H Fault Unit).Runs t rest r s') :
    ∀ event ∈ answered :: rest, event.fails command = true →
      r = .ok () ∧ s'.summary = event.countedAs spot.failure t.summary := by
  unfold expectSuccess at h
  intro event hevent hfailure
  cases ok with
  | true =>
    -- After a success there is nothing that could fail.
    obtain ⟨rfl, -, -⟩ := runs_pure_iff.mp h
    rw [List.mem_singleton.mp hevent, hfails] at hfailure
    cases hfailure
  | false =>
    obtain rfl | hevent := List.mem_cons.mp hevent
    · obtain ⟨-, hr, rfl⟩ := runs_check_iff.mp h
      exact ⟨hr, hcounted.symm⟩
    · rw [check_fails h event hevent] at hfailure
      cases hfailure

/-! ## Uses of resources -/

/-- To look a resource up fails in nothing that is counted. -/
theorem CountsFailures.lookup_bind {ref : ResourceRef} {lost : T} {f : Resource H → Step H Fault T}
    (hf : ∀ resource, CountsFailures spot command lost (f resource)) :
    CountsFailures spot command lost (lookup ref >>= f) := by
  intro s events r s' h
  obtain ⟨resource, -, hrest⟩ | ⟨rfl, -⟩ := Runs.lookup_bind_inv h
  · exact hf resource hrest
  · intro event hevent
    cases hevent

/-- A clear that fails is counted once. -/
theorem clear_countsFailures {ref : ResourceRef} {value : ClearValue} {message : String} :
    CountsFailures (H := H) spot command () (clear context spot ref value message) := by
  refine .lookup_bind fun resource s events r s' h => ?_
  obtain ⟨ok, rest, rfl, hrest⟩ := runs_ask_bind_iff.mp h
  exact counted_of_expectSuccess rfl rfl hrest

/-- A copy that fails is counted once. -/
theorem copy_countsFailures {source target : ResourceRef} :
    CountsFailures (H := H) spot command () (copy context spot source target) := by
  refine .lookup_bind fun read => .lookup_bind fun written s events r s' h => ?_
  cases hmismatch : copyMismatch? read.desc written.desc with
  | some mismatch =>
    rw [hmismatch] at h
    obtain ⟨rfl, -, -⟩ := runs_refuse_iff.mp h
    intro event hevent
    cases hevent
  | none =>
    rw [hmismatch] at h
    obtain ⟨ok, rest, rfl, hrest⟩ := runs_ask_bind_iff.mp h
    exact counted_of_expectSuccess rfl rfl hrest

/-- A draw or dispatch, whose success is remembered before it is reported. -/
theorem counted_of_rendered {answered : Event H} {ok : Bool} {message : String}
    {r : Except Fault Unit} (hfails : answered.fails command = !ok)
    (hcounted : answered.countedAs spot.failure t.summary =
      t.summary.count spot.failure)
    (h : (rendered context spot ok message : Step H Fault Unit).Runs t rest r s') :
    ∀ event ∈ answered :: rest, event.fails command = true →
      r = .ok () ∧ s'.summary = event.countedAs spot.failure t.summary := by
  rw [rendered, runs_modifySession_bind_iff] at h
  exact counted_of_expectSuccess (t := t.update ({ · with lastRenderFailed := !ok })) hfails
    hcounted h

/-! ## Probes -/

/-- A mismatch that is found is counted, and nothing that follows it fails. -/
theorem compareProbe_fails {r : Readback} {rect : ProbeRect} {value : ProbeValue}
    {steps : UInt32} {result : Except Fault Unit}
    (h : (compareProbe context spot r rect value steps : Step H Fault Unit).Runs s events
      result s') :
    (∀ command : Command, ∀ event ∈ events, event.fails command = false) ∧
      (foundMismatch (r.verdict rect value steps) = true → result = .ok () ∧
        s'.summary = s.summary.count spot.failure) := by
  unfold compareProbe at h
  split at h
  · rename_i hbroken
    obtain ⟨rfl, -, -⟩ := runs_refuse_iff.mp h
    refine ⟨fun _ event hevent => absurd hevent List.not_mem_nil, fun hmiss => ?_⟩
    rw [hbroken] at hmiss
    cases hmiss
  · rename_i hmatch
    exact ⟨fun _ => check_fails h, fun hmiss => by rw [hmatch] at hmiss; cases hmiss⟩
  · refine ⟨fun _ => check_fails h, fun _ => ?_⟩
    obtain ⟨-, hr, rfl⟩ := runs_check_iff.mp h
    exact ⟨hr, rfl⟩

/-- A readback that fails or does not match is counted once. -/
theorem readProbe_countsFailures {ref : ResourceRef} {rect : ProbeRect} {value : ProbeValue}
    {steps : UInt32} :
    CountsFailures (H := H) spot (.probe ref rect value steps) ()
      (readProbe context spot ref rect value steps) := by
  intro s events r s' h event hevent hfailure
  cases readProbe_cases h with
  | refused => cases hevent
  | asked hlive harea hanswered =>
    -- A failure is the answer or comes after it.
    obtain rfl | hrest := List.mem_cons.mp hevent
    · cases hanswered with
      | broken => cases hfailure
      | unread hcheck =>
        obtain ⟨-, hr, rfl⟩ := runs_check_iff.mp hcheck
        exact ⟨hr, rfl⟩
      | unfit hfits =>
        simp [RunState.asked, Event.fails, Command.misses, harea, hfits, Except.isOk,
          Except.toBool] at hfailure
      | compared hfits hcompare =>
        refine (compareProbe_fails hcompare).2 ?_
        simpa [RunState.asked, Event.fails, Command.misses, harea, hfits, Except.isOk,
          Except.toBool] using hfailure
    · cases hanswered with
      | broken | unfit => cases hrest
      | unread hcheck =>
        rw [check_fails hcheck event hrest] at hfailure
        cases hfailure
      | compared hfits hcompare =>
        rw [(compareProbe_fails hcompare).1 _ event hrest] at hfailure
        cases hfailure

/-- A probe that fails is counted once, or only logged after a failed render. -/
theorem probe_countsFailures {ref : ResourceRef} {rect : ProbeRect} {value : ProbeValue}
    {steps : UInt32} :
    CountsFailures (H := H) spot (.probe ref rect value steps) ()
      (probe context spot ref rect value steps) := by
  intro s events r s' h
  rw [probe, runs_session_bind_iff] at h
  split at h
  · obtain ⟨rfl, -, -⟩ := runs_log_iff.mp h
    intro event hevent hfailure
    rw [List.mem_singleton.mp hevent, RunState.fails_log] at hfailure
    cases hfailure
  · exact readProbe_countsFailures h

/-! ## Quads -/

/-- A part of a quad counts its failures, and nothing if it is made. -/
structure CountsPart (spot : Spot) (command : Command) (x : Step H Fault Bool) : Prop where
  failures : CountsFailures spot command false x
  made : ∀ ⦃s events s'⦄, x.Runs s events (.ok true) s' → s'.summary = s.summary

/-- One answer of a part may be a failure, and then the part is not made. -/
inductive PartEnds (spot : Spot) (command : Command) (s : RunState H) (answered : Event H) :
    Except Fault Bool → RunState H → Prop
  | made {r : Except Fault Bool} {s' : RunState H} (hfails : answered.fails command = false)
      (hsummary : s'.summary = s.summary) : PartEnds spot command s answered r s'
  | lost {s' : RunState H} (hsummary : s'.summary = answered.countedAs spot.failure s.summary) :
      PartEnds spot command s answered (.ok false) s'

/-- A part with one answer counts that answer at most. -/
theorem CountsPart.of_answer {x : Step H Fault Bool}
    (h : ∀ ⦃s events r s'⦄, x.Runs s events r s' → ∃ before answered after,
      events = before ++ answered :: after ∧
      (∀ event ∈ before ++ after, event.fails command = false) ∧
      PartEnds spot command s answered r s') : CountsPart spot command x where
  failures s events r s' hrun event hevent hfailure := by
    obtain ⟨before, answered, after, rfl, hothers, hends⟩ := h hrun
    by_cases hother : event ∈ before ++ after
    · rw [hothers event hother] at hfailure
      cases hfailure
    · -- The failure is the answer itself.
      obtain rfl : event = answered := by
        simp only [List.mem_append, List.mem_cons, not_or] at hevent hother
        exact (hevent.resolve_left hother.1).resolve_right hother.2
      cases hends with
      | made hfails => rw [hfails] at hfailure; cases hfailure
      | lost hsummary => exact ⟨rfl, hsummary⟩
  made s events s' hrun := by
    obtain ⟨before, answered, after, -, -, hends⟩ := h hrun
    cases hends with
    | made _ hsummary => exact hsummary

/-- What replaces a live resource destroys it, which is no failure. -/
theorem register_fails {desc : ResourceDesc} {handle : H} {r : Except Fault Unit}
    (h : (register desc handle : Step H Fault Unit).Runs s events r s') :
    (∀ event ∈ events, event.fails command = false) ∧ s'.summary = s.summary := by
  obtain ⟨replaced, registry, -, -, rfl, rfl⟩ | ⟨-, -, rfl, rfl⟩ := register_inv h
  · refine ⟨fun event hevent => ?_, rfl⟩
    obtain ⟨old, -, rfl⟩ := List.mem_map.mp hevent
    rfl
  · exact ⟨by simp, rfl⟩

/-- A creation that fails is counted once, or as skipped. -/
theorem creationFailed_counts (spot : Spot) (command : Command) {desc : ResourceDesc}
    (data : List UInt8) {line : Nat} {error : BackendError} {r : Except Fault Unit}
    (h : (creationFailed context desc line error : Step H Fault Unit).Runs s events r s') :
    (∀ event ∈ events, event.fails command = false) ∧ r = .ok () ∧
      s'.summary =
        (s.asked (.create desc data) (.error error)).countedAs spot.failure s.summary := by
  unfold creationFailed at h
  rw [runs_modifySession_bind_iff] at h
  cases error with
  | unsupported reason =>
    obtain ⟨rfl, hr, rfl⟩ := runs_skip_iff.mp h
    exact ⟨by simp, hr, rfl⟩
  | failed reason =>
    refine ⟨check_fails h, ?_⟩
    obtain ⟨-, hr, rfl⟩ := runs_check_iff.mp h
    exact ⟨hr, rfl⟩

/-- A creation is a part with one answer. -/
theorem createResource_countsPart {desc : ResourceDesc} {data : List UInt8} {line : Nat} :
    CountsPart (H := H) spot command (createResource context desc data line) := by
  refine .of_answer fun s events r s' h => ?_
  rw [createResource] at h
  obtain ⟨⟨⟩, asked, rfl, hask⟩ := runs_ask_bind_iff.mp h
  obtain ⟨created, rest, rfl, hrest⟩ := runs_ask_bind_iff.mp hask
  refine ⟨[_], s.asked (.create desc data) created, rest, rfl, ?_⟩
  cases created with
  | ok handle =>
    -- What was made is registered, or the table is full; neither is counted.
    obtain ⟨before, _, t, after, hregister, hpure, rfl⟩ | ⟨_, hregister, -⟩ :=
      runs_bind_iff.mp hrest
    · obtain ⟨rfl, -, rfl⟩ := runs_pure_iff.mp hpure
      obtain ⟨hfails, hsummary⟩ := register_fails hregister
      exact ⟨by simpa using hfails, .made rfl hsummary⟩
    · obtain ⟨hfails, hsummary⟩ := register_fails hregister
      exact ⟨by simpa using hfails, .made rfl hsummary⟩
  | error error =>
    -- What was not made is counted as a failed check.
    obtain ⟨before, _, t, after, hfailed, hpure, rfl⟩ | ⟨_, hfailed, -⟩ := runs_bind_iff.mp hrest
    · obtain ⟨hfails, -, hsummary⟩ := creationFailed_counts spot command data hfailed
      obtain ⟨rfl, rfl, rfl⟩ := runs_pure_iff.mp hpure
      exact ⟨by simpa using hfails, .lost hsummary⟩
    · cases (creationFailed_counts spot command data hfailed).2.1

theorem ensureTarget_countsPart {line : Nat} :
    CountsPart (H := H) spot command (ensureTarget context line) := by
  have hcreate : CountsPart (H := H) spot command (createResource context quadTarget [] line) :=
    createResource_countsPart
  -- A target that is there is left as it is, and otherwise it is created.
  refine ⟨fun s events r s' h => ?_, fun s events s' h => ?_⟩ <;>
    rw [ensureTarget, runs_session_bind_iff] at h <;> split at h
  · obtain ⟨rfl, -, -⟩ := runs_pure_iff.mp h
    intro event hevent
    cases hevent
  · exact hcreate.failures h
  · obtain ⟨-, -, rfl⟩ := runs_pure_iff.mp h
    rfl
  · exact hcreate.made h

theorem compileQuad_countsPart : CountsPart (H := H) spot command (compileQuad context spot) := by
  refine .of_answer fun s events r s' h => ?_
  obtain ⟨made, rfl, hcases⟩ := compileQuad_cases h
  refine ⟨[], ?_⟩
  cases hcases with
  | compiled compiled => exact ⟨_, _, rfl, by simp, .made rfl rfl⟩
  | failed error hcheck =>
    refine ⟨_, _, rfl, by simpa using check_fails hcheck, .lost ?_⟩
    obtain ⟨-, -, rfl⟩ := runs_check_iff.mp hcheck
    rfl

/-- A quad goes on after a part that was made, and is given up without it. -/
theorem CountsFailures.part_bind {x : Step H Fault Bool} {f : Step H Fault Unit}
    (hx : CountsPart spot command x) (hf : CountsFailures spot command () f) :
    CountsFailures spot command () (x >>= fun made => if made = true then f else pure ()) := by
  intro s events r s' h event hevent hfailure
  obtain ⟨before, made, t, after, hrun, hrest, rfl⟩ | ⟨_, hrun, rfl⟩ := runs_bind_iff.mp h
  · obtain hevent | hevent := List.mem_append.mp hevent
    · -- The part is not made, so nothing comes after it.
      obtain ⟨hmade, hsummary⟩ := hx.failures hrun event hevent hfailure
      cases hmade
      obtain ⟨-, hr, rfl⟩ := runs_pure_iff.mp hrest
      exact ⟨hr, hsummary⟩
    · cases made with
      | false =>
        obtain ⟨rfl, -, -⟩ := runs_pure_iff.mp hrest
        cases hevent
      | true =>
        rw [if_pos rfl] at hrest
        rw [← hx.made hrun]
        exact hf hrest event hevent hfailure
  · cases (hx.failures hrun event hevent hfailure).1

/-- A change of the session fails in nothing. -/
theorem CountsFailures.modifySession_bind {lost : T} {f : Session H → Session H}
    {x : Unit → Step H Fault T} (hx : CountsFailures spot command lost (x ())) :
    CountsFailures spot command lost (modifySession f >>= x) := by
  intro s events r s' h
  have hrest := hx (runs_modifySession_bind_iff.mp h)
  exact hrest

/-- A quad counts the first part that fails. -/
theorem drawQuad_countsFailures :
    CountsFailures (H := H) spot command () (drawQuad context spot) := by
  -- The parts are made one after another, and then the quad is drawn.
  refine .part_bind ensureTarget_countsPart (.modifySession_bind
    (.part_bind compileQuad_countsPart (.part_bind createResource_countsPart ?_)))
  intro s events r s' h
  rw [runs_session_bind_iff] at h
  obtain ⟨ok, rest, rfl, hrest⟩ := runs_ask_bind_iff.mp h
  exact counted_of_rendered rfl rfl hrest

/-! ## Commands -/

/-- A change of the session alone fails in nothing. -/
theorem modifySession_countsFailures {f : Session H → Session H} :
    CountsFailures spot command () (modifySession f) := by
  intro s events r s' h
  obtain ⟨rfl, -, -⟩ := runs_modifySession_iff.mp h
  intro event hevent
  cases hevent

/-- The execution of a command ends with the first answer that is a failure, and counts it. -/
theorem execute_countsFailures (command : Command) :
    CountsFailures (H := H) spot command () (execute context spot command) := by
  -- One case for each command; those that only change settings are alike.
  cases command with
  | dispatch x y z =>
    intro s events r s' h
    rw [execute, runs_session_bind_iff] at h
    obtain ⟨ok, rest, rfl, hrest⟩ := runs_ask_bind_iff.mp h
    exact counted_of_rendered rfl rfl hrest
  | draw topology vertices instances =>
    intro s events r s' h
    rw [execute, runs_session_bind_iff] at h
    obtain ⟨ok, rest, rfl, hrest⟩ := runs_ask_bind_iff.mp h
    exact counted_of_rendered rfl rfl hrest
  | drawQuad => exact drawQuad_countsFailures
  | clearTarget slot colour => exact clear_countsFailures
  | clearDepth depth => exact clear_countsFailures
  | copy source target => exact copy_countsFailures
  | probe target rect value steps => exact probe_countsFailures
  | depthFunc | depthBounds | uniform | sampleMask | alphaTest | shadeMode | clipPlane
  | pointSize | pointSprite | fog | fogColour | viewport =>
    rw [execute]
    exact modifySession_countsFailures

/-! ## Stale stages -/

/-- A stage that failed to compile for the lowest model, so that it is not compiled again. -/
structure IsBroken (s : Session H) (type : ShaderType) : Prop where
  failed : (s.stage type).isFailed = true
  fresh : s.IsFresh type

/-- A broken stage is a failed shader. -/
theorem IsBroken.hasFailedShader {session : Session H} {type : ShaderType}
    (h : IsBroken session type) : session.hasFailedShader = true :=
  List.any_eq_true.mpr ⟨type, by cases type <;> decide, h.failed⟩

/-- What compiling stale stages again shows: nothing is counted, and a failure breaks a stage,
    which stays broken. -/
structure Refreshes (s : RunState H) (events : List (Event H)) (s' : RunState H) : Prop where
  summary : s'.summary = s.summary
  turns : ∀ event ∈ events, event.turn? = none
  breaks : ∀ command, ∀ event ∈ events, event.fails command = true →
    ∃ type, IsBroken s'.session type
  broken : ∀ type, IsBroken s.session type → IsBroken s'.session type

theorem Refreshes.refl (s : RunState H) : Refreshes s [] s :=
  ⟨rfl, by simp, by simp, fun _ => id⟩

theorem Refreshes.trans {events' : List (Event H)} (h : Refreshes s events t)
    (h' : Refreshes t events' s') : Refreshes s (events ++ events') s' where
  summary := h'.summary.trans h.summary
  turns event hevent := (List.mem_append.mp hevent).elim (h.turns event) (h'.turns event)
  breaks command event hevent hfailure := by
    obtain hevent | hevent := List.mem_append.mp hevent
    · obtain ⟨type, hbroken⟩ := h.breaks command event hevent hfailure
      exact ⟨type, h'.broken type hbroken⟩
    · exact h'.breaks command event hevent hfailure
  broken type hbroken := h'.broken type (h.broken type hbroken)

/-- The compile of a stale stage, with what is logged of it. -/
theorem refreshes_compile {type : ShaderType} {source : ShaderSource}
    (hstale : (s.session.stage type).isStale s.session.minimumModel = true)
    (hsource : (s.session.stage type).source = some source)
    (result : Except CompileError CompiledShader) (entries : List LogEntry) :
    Refreshes s (s.asked (.compile source type s.session.minimumModel s.session.options) result ::
        entries.map fun entry => s.asked (.log entry) ())
      (s.update (·.setCompiled type s.session.minimumModel result.toOption)) where
  summary := rfl
  turns event hevent := by
    obtain rfl | hevent := List.mem_cons.mp hevent
    · rfl
    · obtain ⟨entry, -, rfl⟩ := List.mem_map.mp hevent
      rfl
  breaks command event hevent hfailure := by
    obtain rfl | hevent := List.mem_cons.mp hevent
    · cases result with
      | ok compiled => cases hfailure
      | error error =>
        refine ⟨type, ?_, isFresh_setCompiled _ _ _ (.inl rfl)⟩
        simp [Session.setCompiled, Session.setStage, Stage.withCompiled, Stage.isFailed, hsource,
          Except.toOption]
    · obtain ⟨entry, -, rfl⟩ := List.mem_map.mp hevent
      cases hfailure
  broken type' hbroken := by
    -- A broken stage is not stale, so it is another one.
    have htype : type' ≠ type := by
      rintro rfl
      rw [hbroken.fresh] at hstale
      cases hstale
    refine ⟨?_, isFresh_setCompiled _ _ _ (.inr hbroken.fresh)⟩
    simpa [Session.setCompiled, Session.setStage, htype] using hbroken.failed

/-- To compile a stage again refreshes it and counts nothing. -/
theorem refreshStage_refreshes {type : ShaderType} {r : Except E Unit}
    (h : (refreshStage context type : Step H E Unit).Runs s events r s') :
    ∃ a, r = .ok a ∧ Refreshes s events s' := by
  obtain ⟨hr, hrefreshed⟩ := refreshStage_cases h
  refine ⟨(), hr, ?_⟩
  cases hrefreshed with
  | fresh => exact .refl s
  | again hsource hstale result => exact refreshes_compile hstale hsource result _

theorem refreshStages_refreshes {types : List ShaderType} {r : Except E Unit}
    (h : (refreshStages context types : Step H E Unit).Runs s events r s') :
    ∃ a, r = .ok a ∧ Refreshes s events s' := by
  induction types generalizing s events with
  | nil =>
    obtain ⟨rfl, hr, rfl⟩ := runs_pure_iff.mp h
    exact ⟨(), hr, .refl s'⟩
  | cons type types ih =>
    obtain ⟨before, _, t, after, hfirst, hrest, rfl⟩ := Runs.bind_inv h refreshStage_refreshes
    obtain ⟨a, hr, hmore⟩ := ih hrest
    exact ⟨a, hr, hfirst.trans hmore⟩

/-! ## Test lines -/

/-- If a test line is executed, a failing answer to any of its requests ends the line, and the
    failure is counted. -/
theorem runCommand_countsFailures {test : TestLine} {line : Nat} {r : Except Fault Unit}
    (h : (runCommand context test line : Step H Fault Unit).Runs s events r s')
    (hexecuted : ∃ event ∈ events, event.executes test = true) :
    ∀ event ∈ events, event.fails test.command = true →
      r = .ok () ∧
        s'.summary = event.countedAs (Spot.failure ⟨line, test.todo, test.bug⟩) s.summary := by
  cases runCommand_cases h with
  | suppressed entry hrefresh =>
    -- There is no turn to the execution if the line is not executed.
    obtain ⟨-, -, hrefreshes⟩ := refreshStages_refreshes hrefresh
    obtain ⟨executed, hevent, hexecutes⟩ := hexecuted
    obtain rfl | hevent := List.mem_cons.mp hevent
    · cases hexecutes
    obtain hevent | hevent := List.mem_append.mp hevent
    · rw [Event.executes, hrefreshes.turns executed hevent] at hexecutes
      cases hexecutes
    · rw [List.mem_singleton.mp hevent] at hexecutes
      cases hexecutes
  | executed hrefresh hsound hexecute =>
    obtain ⟨-, -, hrefreshes⟩ := refreshStages_refreshes hrefresh
    intro event hevent hfailure
    obtain rfl | hevent := List.mem_cons.mp hevent
    · cases hfailure
    obtain hevent | hevent := List.mem_append.mp hevent
    · -- After a failure to compile a stage again the line would not be executed.
      obtain ⟨type, hbroken⟩ := hrefreshes.breaks _ event hevent hfailure
      exact absurd (.inr hbroken.hasFailedShader) hsound
    obtain rfl | hevent := List.mem_cons.mp hevent
    · cases hfailure
    rw [← hrefreshes.summary]
    exact execute_countsFailures test.command hexecute event hevent hfailure

/-- Where failure is expected of a test line, a failing answer to it is counted as a known bug or
    a missing feature, and so is tolerated; or as skipped if it says that a resource is not
    supported.  Only the failure of a creation is a failed check all the same. -/
theorem failure_counted_of_runTestLine {text : Text} {test : TestLine} {line : Nat}
    {r : Except Fault Unit}
    (h : (runTestLine context text line : Step H Fault Unit).Runs s events r s')
    (hread : TestLine.read ⟨s.session.minimumModel, context.caps.tags⟩ text = .ok (some test))
    (hexecuted : ∃ event ∈ events, event.executes test = true)
    (hexpected : test.todo = true ∨ test.bug = true) {event : Event H} (hevent : event ∈ events)
    (hfails : event.fails test.command = true) :
    r = .ok () ∧
      s'.summary = event.countedAs (if test.bug then .bug else .todo) s.summary := by
  have houtcome : Spot.failure ⟨line, test.todo, test.bug⟩ = if test.bug then .bug else .todo := by
    cases hbug : test.bug with
    | true => rfl
    | false =>
      have htodo : test.todo = true := by simpa [hbug] using hexpected
      rw [htodo]
      rfl
  rw [← houtcome]
  rw [runTestLine, runs_session_bind_iff] at h
  split at h
  · rw [qualifierContext, bind_assoc, runs_session_bind_iff, pure_bind, hread,
      runs_ofExcept_ok_bind_iff] at h
    exact runCommand_countsFailures h hexecuted event hevent hfails
  · -- Nothing happens while test lines are not executed.
    obtain ⟨rfl, -, -⟩ := runs_pure_iff.mp h
    cases hevent

/-- A quad that is expected to fail, at the beginning of a file. -/
def uncreatedQuad : Step Nat Fault Unit :=
  runTestLine ⟨"quad", .run, .plain⟩ "todo draw quad".toList 2

/-- A result with a value is a success. -/
theorem eq_ok_of_toOption {result : Except E T} {value : T}
    (h : result.toOption = some value) : result = .ok value := by
  cases result with
  | ok v => simpa [Except.toOption] using h
  | error e => simp [Except.toOption] at h

/-- The state at that line. -/
def uncreatedStart : RunState Nat := .start ⟨"quad", .run, .plain⟩

/-- The target of the quad cannot be created, which is counted as failed. -/
theorem failure_counted_uncreatedQuad :
    ∃ event ∈ journalTrace .willing (some (.failed "")) uncreatedQuad uncreatedStart,
      event.fails .drawQuad = true ∧
      (journalEnd .willing (some (.failed "")) uncreatedQuad uncreatedStart).2.summary =
        event.countedAs .todo uncreatedStart.summary ∧
      (journalEnd .willing (some (.failed "")) uncreatedQuad uncreatedStart).2.summary =
        Summary.zero.count .fail := by
  obtain ⟨event, hevent, hfails⟩ :
      ∃ event ∈ journalTrace .willing (some (.failed "")) uncreatedQuad uncreatedStart,
        event.fails .drawQuad = true := by decide +kernel
  refine ⟨event, hevent, hfails, ?_, by decide +kernel⟩
  have hread : TestLine.read ⟨uncreatedStart.session.minimumModel, []⟩ "todo draw quad".toList =
      .ok (some ⟨true, false, .drawQuad⟩) := eq_ok_of_toOption (by decide +kernel)
  have hcounted := failure_counted_of_runTestLine
    (runs_journalTrace .willing (some (.failed "")) uncreatedQuad uncreatedStart) hread
    (by decide +kernel) (.inl rfl) hevent hfails
  exact hcounted.2

end Step

end ShaderConformance
