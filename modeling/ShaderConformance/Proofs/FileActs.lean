import ShaderConformance.Proofs.CommandActs
import ShaderConformance.Surroundings.Journal

/-!
# The run of a file is a chain of acts

## Main statements

- `readLines_proceeds`: what reading lines does, in acts
- `finishes_of_runs`: a run of a file ends with nothing live, with a resource that a full
  registry refused, or where it breaks off
- `Finishes.throughout`: what holds throughout the acts of a run holds throughout the run
- `runs_journalEvents`: a journal makes a run of a file
-/

namespace ShaderConformance

namespace Step

variable {H E T : Type} {context : RunContext} {turn : Option Turn} {s s' : RunState H}
  {events : List (Event H)} {line : Nat}

/-! ## Lines of blocks -/

/-- A step that is blamed on a line proceeds as before. -/
theorem atLine_proceeds {R : RunState H → List (Event H) → RunState H → Prop}
    {x : Step H Fault T} {r : Except LocatedFault T} (h : (atLine line x).Runs s events r s')
    (hx : ∀ {r}, x.Runs s events r s' → Proceeds R id s events r s') :
    Proceeds R LocatedFault.fault s events r s' := by
  -- Only the fault gets a line; its cause stays what it was.
  obtain ⟨r', hrun, rfl⟩ := runs_mapFault_iff.mp h
  cases r' with
  | ok value => exact .orderly (hx hrun).of_ok _
  | error fault => exact (hx hrun).rethrow rfl

/-- What a block takes is no event. -/
theorem taken_inv {make : T → Block} {result : T × Option Fault} {r : Except Fault Block}
    (h : (taken make result : Step H Fault Block).Runs s events r s') :
    events = [] ∧ s' = s := by
  obtain ⟨value, fault⟩ := result
  cases fault with
  | none =>
    obtain ⟨rfl, -, rfl⟩ := runs_pure_iff.mp h
    exact ⟨rfl, rfl⟩
  | some fault =>
    obtain ⟨rfl, -, rfl⟩ := runs_refuse_iff.mp h
    exact ⟨rfl, rfl⟩

/-- What an attribute or a header of a layout changes. -/
theorem progress_inputElements (s : RunState H) (inputElements : List InputElement) :
    Progress context s [] (s.update ({ · with inputElements })) :=
  Progress.of_move fun _ => .settings s inputElements s.session.uniforms s.session.viewports
    s.session.fixed

/-- To log is to go on. -/
theorem progress_log (s : RunState H) (entry : LogEntry) :
    Progress context s [s.asked (.log entry) ()] s :=
  Progress.of_move fun _ => .remark (.log s entry)

/-- A line of a block goes on, or ends with a fault. -/
theorem takeLine_proceeds {block : Block} {text : Text} {r : Except Fault Block}
    (h : (takeLine context block text line : Step H Fault Block).Runs s events r s') :
    Proceeds (Progress context) id s events r s' := by
  -- Most blocks take a line without any event.
  have htaken {T : Type} {make : T → Block} {result : T × Option Fault}
      (h : (taken make result : Step H Fault Block).Runs s events r s') :
      Proceeds (Progress context) id s events r s' := by
    obtain ⟨rfl, rfl⟩ := taken_inv h
    exact .orderly (.refl s') r
  cases block with
  | none =>
    obtain ⟨rfl, -, rfl⟩ := runs_refuse_iff.mp h
    exact .orderly (.refl s') r
  | inputLayout =>
    rw [takeLine] at h
    cases helement : InputElement.read text with
    | error fault =>
      rw [helement] at h
      obtain ⟨rfl, rfl, rfl⟩ := runs_ofExcept_error_bind_iff.mp h
      exact .orderly (.refl s') _
    | ok element =>
      rw [helement, runs_ofExcept_ok_bind_iff, runs_modifySession_bind_iff] at h
      obtain ⟨rfl, rfl, rfl⟩ := runs_pure_iff.mp h
      exact .orderly (progress_inputElements s _) _
  | require block => exact htaken h
  | resource block => exact htaken h
  | sampler sampler => exact htaken h
  | test =>
    rw [takeLine] at h
    refine Proceeds.bind id Progress.trans h runTestLine_proceeds ?_
    intro before _ t rest _ hpure
    obtain ⟨rfl, rfl, rfl⟩ := runs_pure_iff.mp hpure
    exact .orderly (.refl _) _
  | shader | preproc =>
    obtain ⟨rfl, rfl, rfl⟩ := runs_pure_iff.mp h
    exact .orderly (.refl s') _

theorem openBlock_proceeds {text : Text} {r : Except Fault Block}
    (h : (openBlock context text : Step H Fault Block).Runs s events r s') :
    Proceeds (Progress context) id s events r s' := by
  -- The qualifiers of a header are read in the session as it stands.
  rw [openBlock, qualifierContext, bind_assoc, runs_session_bind_iff, pure_bind] at h
  cases hheader : BlockHeader.read ⟨s.session.minimumModel, context.caps.tags⟩ text with
  | error fault =>
    rw [hheader] at h
    obtain ⟨rfl, rfl, rfl⟩ := runs_ofExcept_error_bind_iff.mp h
    exact .orderly (.refl s') _
  | ok header =>
    rw [hheader, runs_ofExcept_ok_bind_iff] at h
    cases header with
    | inputLayout =>
      -- A layout starts without elements.
      simp only [Block.ofHeader, runs_modifySession_bind_iff] at h
      obtain ⟨rfl, rfl, rfl⟩ := runs_pure_iff.mp h
      exact .orderly (progress_inputElements s _) _
    | require | test | preproc | shader | resource | sampler =>
      obtain ⟨rfl, rfl, rfl⟩ := runs_pure_iff.mp h
      exact .orderly (.refl s') _

theorem finishBlock_progress {block : Block} {r : Except Fault Unit}
    (h : (finishBlock context block line : Step H Fault Unit).Runs s events r s') :
    Proceeds (Progress context) id s events r s' := by
  obtain ⟨rest, rfl, hrest⟩ := finishBlock_proceeds h
  -- The turn to the end of the block is an act in front of its moves.
  have hclose {rest : List (Event H)} {t : RunState H}
      (hcourse : Course context (some (.close block line)) s rest t) :
      Progress context s ([s.noted (.turn (.close block line))] ++ rest) t :=
    fun turn => ⟨_, .cons (.close turn s block line) (actsAt_of_course hcourse)⟩
  exact hrest.after hclose

/-! ## Lines of files -/

/-- A header first ends the block before it. -/
theorem headerLine_proceeds {current : OpenBlock} {text : Text} {r : Except LocatedFault OpenBlock}
    (h : (headerLine context current text line : Step H LocatedFault OpenBlock).Runs s events
      r s') :
    Proceeds (Progress context) LocatedFault.fault s events r s' := by
  rw [headerLine] at h
  -- The open block ends, another one opens, and that is logged.
  refine Proceeds.bind id Progress.trans h
    (fun hfinish => atLine_proceeds hfinish finishBlock_progress) ?_
  intro before _ t rest _ hopen
  refine Proceeds.bind id Progress.trans hopen
    (fun hopen => atLine_proceeds hopen openBlock_proceeds) ?_
  intro before block t rest _ hlog
  obtain ⟨_, rest, rfl, hpure⟩ := runs_ask_bind_iff.mp hlog
  obtain ⟨rfl, rfl, rfl⟩ := runs_pure_iff.mp hpure
  exact .orderly (progress_log _ _) _

/-- A line of the body goes on, or ends with a fault. -/
theorem bodyLine_proceeds {current : OpenBlock} {text : Text} {r : Except LocatedFault OpenBlock}
    (h : (bodyLine context current text line : Step H LocatedFault OpenBlock).Runs s events
      r s') :
    Proceeds (Progress context) LocatedFault.fault s events r s' := by
  rw [bodyLine] at h
  cases hcollect : current.block.collect? text with
  | some block =>
    rw [hcollect] at h
    obtain ⟨rfl, rfl, rfl⟩ := runs_pure_iff.mp h
    exact .orderly (.refl s') _
  | none =>
    rw [hcollect] at h
    dsimp only at h
    split at h
    · -- A comment or a line of blanks does nothing.
      obtain ⟨rfl, rfl, rfl⟩ := runs_pure_iff.mp h
      exact .orderly (.refl s') _
    · obtain ⟨_, rest, rfl, htake⟩ := runs_ask_bind_iff.mp h
      have hrest : Proceeds (Progress context) LocatedFault.fault s rest r s' := by
        refine Proceeds.bind id Progress.trans htake
          (fun htake => atLine_proceeds htake takeLine_proceeds) ?_
        intro before block t rest _ hpure
        obtain ⟨rfl, rfl, rfl⟩ := runs_pure_iff.mp hpure
        exact .orderly (.refl _) _
      exact hrest.after (progress_log s _).trans

theorem readLine_proceeds {current : OpenBlock} {text : Text} {r : Except LocatedFault OpenBlock}
    (h : (readLine context current text line : Step H LocatedFault OpenBlock).Runs s events
      r s') :
    Proceeds (Progress context) LocatedFault.fault s events r s' := by
  rw [readLine] at h
  split at h
  · exact headerLine_proceeds h
  · exact bodyLine_proceeds h

/-- Reading lines goes on in acts, by induction on the lines. -/
theorem readLines_proceeds {current : OpenBlock} {lines : List Text}
    {r : Except LocatedFault Unit}
    (h : (readLines context current line lines : Step H LocatedFault Unit).Runs s events r s') :
    Proceeds (Progress context) LocatedFault.fault s events r s' := by
  induction lines generalizing current line s events with
  | nil =>
    -- The end of the file ends the open block.
    exact atLine_proceeds h finishBlock_progress
  | cons text more ih =>
    rw [readLines] at h
    exact Proceeds.bind id Progress.trans h readLine_proceeds fun _ hmore => ih hmore

/-! ## The end of a file -/

/-- Each resource is destroyed once, in order. -/
theorem destroyAll_inv {resources : List (Resource H)} {r : Except E Unit}
    (h : (destroyAll resources : Step H E Unit).Runs s events r s') :
    ∃ a, r = .ok a ∧ events = resources.map (fun resource => s.asked (.destroy resource) ()) ∧
      s' = s := by
  induction resources generalizing events with
  | nil =>
    obtain ⟨rfl, hr, hs⟩ := runs_pure_iff.mp h
    exact ⟨(), hr, rfl, hs⟩
  | cons resource more ih =>
    rw [destroyAll] at h
    obtain ⟨_, rest, rfl, hrest⟩ := runs_ask_bind_iff.mp h
    obtain ⟨a, hr, rfl, hs⟩ := ih hrest
    exact ⟨a, hr, rfl, hs⟩

/-- At the end nothing is left alive. -/
theorem teardown_inv {r : Except E Unit}
    (h : (teardown : Step H E Unit).Runs s events r s') :
    ∃ a, r = .ok a ∧ events = s.teardownEvents ∧ s' = s.emptied := by
  rw [teardown, runs_session_bind_iff] at h
  exact destroyAll_inv (runs_modifySession_bind_iff.mp h)

/-- The handler of a fault comes to no value: it destroys what is live before it refuses with the
    same fault, or refuses at once if the run broke off. -/
theorem stop_inv {fault : LocatedFault} {r : Except LocatedFault Unit}
    (h : (stop fault : Step H LocatedFault Unit).Runs s events r s') :
    r = .error fault ∧ (fault.fault.breaksOff = true ∧ events = [] ∧ s' = s ∨
      fault.fault.breaksOff = false ∧ events = s.teardownEvents ∧ s' = s.emptied) := by
  unfold stop at h
  split at h
  · rename_i hbreaks
    obtain ⟨rfl, hr, rfl⟩ := runs_refuse_iff.mp h
    exact ⟨hr, .inl ⟨hbreaks, rfl, rfl⟩⟩
  · rename_i hbreaks
    obtain ⟨_, _, _, _, ⟨rfl, rfl⟩, hrefuse, rfl⟩ := Runs.bind_inv h teardown_inv
    obtain ⟨rfl, hr, rfl⟩ := runs_refuse_iff.mp hrefuse
    exact ⟨hr, .inr ⟨by simpa using hbreaks, List.append_nil _, rfl⟩⟩

/-- Whether a file was read or not, what is live in the end is destroyed, unless the run broke
    off. -/
theorem readAndTearDown_reads {text : Text} {r : Except LocatedFault Unit}
    (h : (readAndTearDown context text : Step H LocatedFault Unit).Runs s events r s') :
    ∃ read t, (readFile context text).Runs s read r t ∧
      ((∃ fault, r = .error fault ∧ fault.fault.breaksOff = true ∧ events = read ∧ s' = t) ∨
        (∀ fault, r = .error fault → fault.fault.breaksOff = false) ∧
          events = read ++ t.teardownEvents ∧ s' = t.emptied) := by
  rw [readAndTearDown] at h
  obtain ⟨before, _, t, after, hread, hteardown, rfl⟩ | ⟨fault, hread, rfl⟩ :=
    runs_bind_iff.mp h
  · -- The handler never comes to a value, so the file was read without a fault.
    obtain ⟨_, hread, hok⟩ | ⟨before, fault, u, rest, -, hhandler, -⟩ :=
      runs_tryCatch_iff.mp hread
    · obtain ⟨_, rfl, rfl, rfl⟩ := teardown_inv hteardown
      exact ⟨before, t, hread, .inr ⟨nofun, rfl, rfl⟩⟩
    · cases (stop_inv hhandler).1
  · obtain ⟨_, -, hok⟩ | ⟨read, fault', t, rest, hread, hhandler, rfl⟩ :=
      runs_tryCatch_iff.mp hread
    · cases hok
    · obtain ⟨hfault, hends⟩ := stop_inv hhandler
      cases hfault
      refine ⟨read, t, hread, ?_⟩
      obtain ⟨hbreaks, rfl, rfl⟩ | ⟨hbreaks, rfl, rfl⟩ := hends
      · exact .inl ⟨fault, rfl, hbreaks, List.append_nil read, rfl⟩
      · refine .inr ⟨?_, rfl, rfl⟩
        rintro _ ⟨rfl⟩
        exact hbreaks

end Step

/-! ## Runs of files -/

section Files

variable {H : Type} {context : RunContext}

/-- The state that a run starts with. -/
def RunState.start (context : RunContext) : RunState H :=
  ⟨.fresh context.caps context.mode.action, .zero⟩

/-- A run of a file goes on in acts until nothing is live, or breaks off before.  Or, at last, it
    creates a resource that the full registry refuses: then it destroys what is live, and fails. -/
inductive Finishes (context : RunContext) : List (Event H) → RunResult → Prop
  | orderly {turn : Option Turn} {t : RunState H} {events : List (Event H)}
      (h : Chain (Act context) (none, .start context) events (turn, t))
      (hempty : t.session.registry.resources = []) (result : RunResult) :
      Finishes context events result
  | brokenOff {turn : Option Turn} {t : RunState H} {events : List (Event H)}
      (h : Chain (Act context) (none, .start context) events (turn, t)) {result : RunResult}
      (hbreaks : result.breaksOff = true) : Finishes context events result
  | crowded {turn : Option Turn} {t : RunState H} {events : List (Event H)}
      (h : Chain (Act context) (none, .start context) events (turn, t)) (desc : ResourceDesc)
      (data : List UInt8) (handle : H) (hfull : t.session.registry.refuses desc.ref = true)
      (line : Nat) :
      Finishes context
        (events ++ t.asked (.create desc data) (.ok handle) ::
          (t.withRegistry (·.clearFailed desc.ref)).teardownEvents)
        (.error ⟨line, .tooManyResources maxResources⟩)

/-- What a run logs before it reads a file. -/
def RunContext.begins (context : RunContext) : LogEntry :=
  ⟨.info, .run, s!"Running {context.file}"⟩

/-- What a run logs after it has read a file. -/
def RunContext.ends (context : RunContext) (summary : Summary) : LogEntry :=
  ⟨.info, .run, s!"{context.file}: {summary.text}"⟩

/-- Around what is read of a file, a run logs its begin and its end; a run that fails logs no
    summary. -/
theorem runs_runFile_iff {text : Text} {events : List (Event H)} {result : RunResult} :
    (runFile H context text).Runs events result ↔
      ∃ reading r t, (Step.readAndTearDown context text).Runs (.start context) reading r t ∧
        ((∃ fault, r = .error fault ∧ result = .error fault ∧
            events = RunState.asked (.start context) (.log context.begins) () :: reading) ∨
          r = .ok () ∧ result = .ok t.summary ∧
            events = RunState.asked (.start context) (.log context.begins) () ::
              (reading ++ [t.asked (.log (context.ends t.summary)) ()])) := by
  rw [runFile]
  constructor
  · intro h
    -- A file begins and ends with a log entry, and a fault leaves out the last one.
    obtain ⟨_, middle, rfl, hmiddle⟩ := Dialogue.runs_ask_iff.mp h
    rw [Dialogue.done_bind] at hmiddle
    obtain ⟨reading, ⟨r, t⟩, rest, hreading, hrest, rfl⟩ := Dialogue.runs_bind_iff.mp hmiddle
    refine ⟨reading, r, t, hreading, ?_⟩
    cases r with
    | error fault =>
      obtain ⟨rfl, rfl⟩ := Dialogue.runs_done_iff.mp hrest
      exact .inl ⟨fault, rfl, rfl, by rw [List.append_nil]; rfl⟩
    | ok _ =>
      obtain ⟨_, _, rfl, hend⟩ := Dialogue.runs_ask_iff.mp hrest
      obtain ⟨rfl, rfl⟩ := Dialogue.runs_done_iff.mp hend
      exact .inr ⟨rfl, rfl, rfl⟩
  · rintro ⟨reading, r, t, hreading, hends⟩
    obtain ⟨fault, rfl, rfl, rfl⟩ | ⟨rfl, rfl, rfl⟩ := hends
    · refine Dialogue.runs_ask_iff.mpr ⟨(), reading, rfl, ?_⟩
      rw [Dialogue.done_bind]
      exact Dialogue.runs_bind_iff.mpr ⟨reading, _, [], hreading, .done _,
        (List.append_nil reading).symm⟩
    · refine Dialogue.runs_ask_iff.mpr ⟨(), _, rfl, ?_⟩
      rw [Dialogue.done_bind]
      exact Dialogue.runs_bind_iff.mpr ⟨reading, _, _, hreading, .ask _ _ () (.done _), rfl⟩

/-- What a run reads goes on in acts.  What is live is destroyed then, unless the run broke off. -/
theorem runFile_inv {text : Text} {events : List (Event H)} {result : RunResult}
    (h : (runFile H context text).Runs events result) :
    ∃ entry read r t, Proceeds (Progress context) LocatedFault.fault (.start context) read r t ∧
      ((∃ fault, r = .error fault ∧ result = .error fault ∧ fault.fault.breaksOff = true ∧
          events = RunState.asked (.start context) (.log entry) () :: read) ∨
        (∃ fault, r = .error fault ∧ result = .error fault ∧ fault.fault.breaksOff = false ∧
          events = RunState.asked (.start context) (.log entry) () ::
            (read ++ t.teardownEvents)) ∨
        ∃ entry', r = .ok () ∧
          events = RunState.asked (.start context) (.log entry) () ::
            (read ++ t.teardownEvents ++ [t.emptied.asked (.log entry') ()])) := by
  obtain ⟨reading, r, t, hreading, hends⟩ := runs_runFile_iff.mp h
  obtain ⟨read, u, hread, hdown⟩ := Step.readAndTearDown_reads hreading
  refine ⟨context.begins, read, r, u, Step.readLines_proceeds hread, ?_⟩
  obtain ⟨fault, rfl, hbreaks, rfl, rfl⟩ | ⟨hbreaks, rfl, rfl⟩ := hdown
  · obtain ⟨_, hr, hresult, hevents⟩ | ⟨hok, -⟩ := hends
    · cases hr
      exact .inl ⟨fault, rfl, hresult, hbreaks, hevents⟩
    · cases hok
  · obtain ⟨fault, hr, hresult, hevents⟩ | ⟨hok, -, hevents⟩ := hends
    · exact .inr (.inl ⟨fault, hr, hresult, hbreaks fault hr, hevents⟩)
    · exact .inr (.inr ⟨_, hok, hevents⟩)

/-- Every run of a file is one of acts. -/
theorem finishes_of_runs {text : Text} {events : List (Event H)} {result : RunResult}
    (h : (runFile H context text).Runs events result) : Finishes context events result := by
  have act_log (turn : Option Turn) (s : RunState H) (entry : LogEntry) :
      Act context (turn, s) [s.asked (.log entry) ()] (turn, s) := .move (.remark (.log s entry))
  obtain ⟨entry, read, r, t, hproceeds, hends⟩ := runFile_inv h
  cases hproceeds with
  | orderly hread r =>
    -- The log entries around the file and the teardown are acts like those of its lines.
    obtain ⟨turn, hchain⟩ := hread none
    have hbefore := Chain.cons (act_log none _ entry) hchain
    have hdown := hbefore.trans (.single (.teardown turn t))
    obtain ⟨fault, -, rfl, hbreaks, rfl⟩ | ⟨fault, -, -, -, rfl⟩ | ⟨entry', -, rfl⟩ := hends
    · exact .brokenOff hbefore hbreaks
    · exact .orderly hdown rfl result
    · exact .orderly (hdown.trans (.single (act_log turn t.emptied entry'))) rfl result
  | @crowded t read hread desc data handle hfull e he =>
    obtain ⟨turn, hchain⟩ := hread none
    have hbefore := Chain.cons (act_log none _ entry) hchain
    obtain ⟨line, fault⟩ := e
    -- The fault of the full registry is the result of the run, and does not break it off.
    obtain ⟨_, hfault, -, hbreaks, -⟩ | ⟨_, hfault, rfl, -, rfl⟩ | ⟨_, hok, -⟩ := hends
    · cases hfault
      cases he
      cases hbreaks
    · cases hfault
      cases he
      have hcrowded := Finishes.crowded hbefore desc data handle hfull line
      simpa using hcrowded
    · cases hok

/-- What acts keep up holds throughout a run if it holds of creations and destructions, since
    nothing else comes after a full registry. -/
theorem Finishes.throughout {I : List (Event H) → Option Turn × RunState H → Prop}
    {P : List (Event H) → Event H → Prop} {events : List (Event H)} {result : RunResult}
    (h : Finishes context events result) (hact : Keeps I (Act context))
    (hstart : I [] (none, .start context))
    (hkept : ∀ {history p}, I history p → Throughout P history)
    (hcreate : ∀ before (s : RunState H) desc data handle,
      P before (s.asked (.create desc data) (.ok handle)))
    (hdestroy : ∀ before (s : RunState H) resource, P before (s.asked (.destroy resource) ())) :
    Throughout P events := by
  cases h with
  | orderly hacts | brokenOff hacts => exact hkept (hact.chain hacts [] hstart)
  | crowded hacts desc data handle hfull line =>
    have hbefore := hkept (hact.chain hacts [] hstart)
    refine hbefore.append (.of_forall fun _ event hevent => ?_)
    obtain rfl | hevent := List.mem_cons.mp hevent
    · exact hcreate _ _ desc data handle
    · obtain ⟨resource, -, rfl⟩ := List.mem_map.mp hevent
      exact hdestroy _ _ resource

/-- A backend that draws, and a compiler that compiles everything. -/
def Journal.Script.willing : Journal.Script := ⟨true, false, ⟨0⟩, ⟨0⟩⟩

/-- What a run of a file goes through with a journal. -/
def journalEvents (script : Journal.Script) (failure : Option BackendError)
    (context : RunContext) (text : Text) : List (Event Nat) :=
  (runFile Nat context text).transcript (Journal.surroundings script).moments (.fresh failure)

/-- The events of a journal are a run of the file. -/
theorem runs_journalEvents (script : Journal.Script) (failure : Option BackendError)
    (context : RunContext) (text : Text) :
    (runFile Nat context text).Runs (journalEvents script failure context text)
      (runFileWith (Journal.surroundings script) context text (.fresh failure)).1 :=
  Dialogue.runs_transcript _ _ _

end Files

end ShaderConformance
