import ShaderConformance.Proofs.FileActs
import ShaderConformance.Proofs.Lockstep
import ShaderConformance.Surroundings.CompileOnly

/-!
# Runs without a backend

A run that only compiles asks its backend nothing, so it comes to the same result, after the
same requests to its compiler and log, whatever the backend would do.  In turn a run that
executes tests asks for no preprocessing.

## Main definitions

- `Consultants`: a compiler and a log
- `Surroundings.Consults`: some surroundings with these, and any backend
- `consultations`: what a run asks of its compiler and its log

## Main statements

- `Lockstep.answer`: runs in lockstep agree if they consult the same compiler and log
- `backend_unused_of_compileOnly`: runs that only compile do not depend on a backend
-/

namespace ShaderConformance

variable {S S' C H H' T T' : Type}

/-! ## Compilers and logs -/

/-- A compiler and a log, with a state of their own. -/
structure Consultants (C : Type) where
  compile : ShaderSource → ShaderType → ShaderModel → CompileOptions → C →
    Except CompileError CompiledShader × C
  preprocess : Text → C → Except CompileError Text × C
  log : LogEntry → C → C

/-- Surroundings whose compiler and log are given, with their state as a part of the whole.  The
    backend may do anything. -/
structure Surroundings.Consults (surroundings : Surroundings S H) (view : S → C)
    (consultants : Consultants C) : Prop where
  compile : ∀ source type model options s,
    let (result, s') := surroundings (.compile source type model options) s
    (result, view s') = consultants.compile source type model options (view s)
  preprocess : ∀ text s,
    let (result, s') := surroundings (.preprocess text) s
    (result, view s') = consultants.preprocess text (view s)
  log : ∀ entry s, view (surroundings (.log entry) s).2 = consultants.log entry (view s)

/-- A request to a compiler or a log. -/
inductive Consultation where
  | compile (source : ShaderSource) (type : ShaderType) (model : ShaderModel)
      (options : CompileOptions)
  | preprocess (text : Text)
  | log (entry : LogEntry)

/-- What is asked of a compiler or a log, if it is. -/
def Request.consultation? : Request H → Option Consultation
  | .compile source type model options => some (.compile source type model options)
  | .preprocess text => some (.preprocess text)
  | .log entry => some (.log entry)
  | .create _ _ | .destroy _ | .clear _ _ | .draw _ _ _ _ | .dispatch _ _ _ _ | .copy _ _
  | .readback _ _ => none

namespace Event

/-- What is asked of a compiler or a log at an event. -/
def consultation? : Event H → Option Consultation
  | ⟨⟨_, .request q⟩, _⟩ => q.consultation?
  | ⟨⟨_, .note _⟩, _⟩ => none

/-- Whether a backend is asked at an event. -/
def asksBackend : Event H → Bool
  | ⟨⟨_, .request q⟩, _⟩ => q.consultation?.isNone
  | ⟨⟨_, .note _⟩, _⟩ => false

/-- Whether a source is preprocessed at an event. -/
def preprocesses : Event H → Bool
  | ⟨⟨_, .request (.preprocess _)⟩, _⟩ => true
  | _ => false

end Event

/-- A backend that only has capabilities asks its consultants. -/
theorem CompileOnly.consults (consultants : Consultants C) :
    (CompileOnly.surroundings consultants.compile consultants.preprocess
      consultants.log).Consults id consultants :=
  ⟨fun _ _ _ _ _ => rfl, fun _ _ => rfl, fun _ _ => rfl⟩

/-- What is asked of a compiler and a log, in order. -/
def consultations (events : List (Event H)) : List Consultation :=
  events.filterMap Event.consultation?

/-- What a run against surroundings asks of their compiler and log. -/
def Surroundings.consultations (surroundings : Surroundings S H) (context : RunContext)
    (text : Text) (s : S) : List Consultation :=
  ShaderConformance.consultations
    ((runFile H context text).transcript surroundings.moments s)

/-! ## Agreement -/

namespace Lockstep

variable {R : T → T' → Prop} {d : Run H T} {d' : Run H' T'}

/-- A run that is in lockstep asks no backend. -/
theorem asksBackend_eq_false (h : Lockstep R d d') {events : List (Event H)} {value : T}
    (hrun : d.Runs events value) : ∀ event ∈ events, event.asksBackend = false := by
  induction h generalizing events with
  | done h =>
    obtain ⟨rfl, -⟩ := Dialogue.runs_done_iff.mp hrun
    simp
  | note | log =>
    rename_i ih
    obtain ⟨_, rest, rfl, hrest⟩ := Dialogue.runs_ask_iff.mp hrun
    exact List.forall_mem_cons.mpr ⟨rfl, ih hrest⟩
  | compile | preprocess =>
    rename_i ih
    obtain ⟨result, rest, rfl, hrest⟩ := Dialogue.runs_ask_iff.mp hrun
    exact List.forall_mem_cons.mpr ⟨rfl, ih result hrest⟩

/-- Two dialogues with surroundings that consult the same compiler and log. -/
theorem answer (h : Lockstep R d d') {surroundings : Surroundings S H}
    {surroundings' : Surroundings S' H'} {view : S → C} {view' : S' → C}
    {consultants : Consultants C} (hconsults : surroundings.Consults view consultants)
    (hconsults' : surroundings'.Consults view' consultants) {s : S} {s' : S'}
    (hview : view s = view' s') :
    R (d.answer surroundings.moments s).1 (d'.answer surroundings'.moments s').1 ∧
      consultations (d.transcript surroundings.moments s) =
        consultations (d'.transcript surroundings'.moments s') := by
  -- At each question the same answers come back, and the views still agree.
  induction h generalizing s s' with
  | done h => exact ⟨h, rfl⟩
  | note _ _ _ _ ih => exact ih hview
  | log _ _ entry _ ih =>
    have hview' :
        view (surroundings (.log entry) s).2 = view' (surroundings' (.log entry) s').2 := by
      rw [hconsults.log, hconsults'.log, hview]
    obtain ⟨hvalue, hasked⟩ := ih hview'
    exact ⟨hvalue, congrArg (Consultation.log entry :: ·) hasked⟩
  | compile _ _ source type model options _ ih =>
    have hresult := hconsults.compile source type model options s
    rw [hview, ← hconsults'.compile source type model options s'] at hresult
    obtain ⟨hanswer, hview'⟩ := Prod.mk.inj hresult
    obtain ⟨hvalue, hasked⟩ := ih (surroundings' (.compile source type model options) s').1 hview'
    simp only [Dialogue.answer, Dialogue.transcript, Surroundings.moments, hanswer]
    exact ⟨hvalue, congrArg (Consultation.compile source type model options :: ·) hasked⟩
  | preprocess _ _ text _ ih =>
    have hresult := hconsults.preprocess text s
    rw [hview, ← hconsults'.preprocess text s'] at hresult
    obtain ⟨hanswer, hview'⟩ := Prod.mk.inj hresult
    obtain ⟨hvalue, hasked⟩ := ih (surroundings' (.preprocess text) s').1 hview'
    simp only [Dialogue.answer, Dialogue.transcript, Surroundings.moments, hanswer]
    exact ⟨hvalue, congrArg (Consultation.preprocess text :: ·) hasked⟩

end Lockstep

/-! ## Preprocessing -/

section Preprocessing

variable {context : RunContext} {turn : Option Turn} {s t : RunState H} {events : List (Event H)}

/-- A remark preprocesses nothing. -/
theorem preprocesses_of_remark (h : Remark turn s events t) :
    ∀ event ∈ events, event.preprocesses = false := by
  cases h <;> simp [Event.preprocesses, RunState.asked, RunState.noted]

/-- Only the end of a preprocessor block preprocesses, in a run that only compiles. -/
theorem mode_of_move (h : Move context turn s events t) :
    ∀ event ∈ events, event.preprocesses = true → context.mode = .compileOnly := by
  -- Only one kind of move preprocesses, and it asks for the mode first.
  have hnone {events : List (Event H)} (h : ∀ event ∈ events, event.preprocesses = false) :
      ∀ event ∈ events, event.preprocesses = true → context.mode = .compileOnly := by
    intro event hevent htrue
    rw [h event hevent] at htrue
    cases htrue
  have hreports {u u' : RunState H} {reports : List (Event H)}
      (h : Chain (Remark turn) u reports u') : ∀ event ∈ reports, event.preprocesses = false :=
    h.forall_mem preprocesses_of_remark
  cases h with
  | remark h => exact hnone (preprocesses_of_remark h)
  | preprocessed hturn hmode => exact fun _ _ _ => hmode
  | refuse hturn haccepts hreport =>
    exact hnone (List.forall_mem_cons.mpr ⟨rfl, hreports hreport⟩)
  | compiled hturn haction hsource result hreport =>
    exact hnone (List.forall_mem_cons.mpr ⟨rfl, hreports hreport⟩)
  | created =>
    refine hnone (List.forall_mem_cons.mpr ⟨rfl, List.forall_mem_map.mpr fun _ _ => rfl⟩)
  | settings | sampler | require | halt | resume | store | variant | quad | notCreated =>
    exact hnone (by simp [Event.preprocesses, RunState.asked, RunState.noted])

/-- Texts are preprocessed only where shaders are only compiled. -/
theorem mode_of_act {p q : Option Turn × RunState H} (h : Act context p events q) :
    ∀ event ∈ events, event.preprocesses = true → context.mode = .compileOnly := by
  cases h with
  | move h => exact mode_of_move h
  | quad hready haction hcommand hmade =>
    simp only [List.forall_mem_cons, List.forall_mem_append]
    exact ⟨nofun, hmade.forall_mem mode_of_move, nofun, by simp⟩
  | quadGivenUp hready haction hcommand hmade =>
    exact List.forall_mem_cons.mpr ⟨nofun, hmade.forall_mem mode_of_move⟩
  | teardown => exact List.forall_mem_map.mpr fun _ _ => nofun
  | _ => simp [Event.preprocesses, RunState.asked, RunState.noted]

/-- A run that executes tests asks for no preprocessing. -/
theorem mode_of_runs {text : Text} {result : RunResult}
    (h : (runFile H context text).Runs events result) :
    ∀ event ∈ events, event.preprocesses = true → context.mode = .compileOnly := by
  cases finishes_of_runs h with
  | orderly hacts | brokenOff hacts => exact hacts.forall_mem mode_of_act
  | crowded hacts desc data handle hfull line =>
    refine List.forall_mem_append.mpr ⟨hacts.forall_mem mode_of_act, ?_⟩
    exact List.forall_mem_cons.mpr ⟨nofun, List.forall_mem_map.mpr fun _ _ => nofun⟩

end Preprocessing

/-! ## Runs that only compile -/

/-- A run that only compiles asks its backend nothing.  With any two surroundings that consult the
    same compiler and log, whatever their backends and handles are, it comes to the same result
    and asks them the same in the same order.  In turn a run that executes tests asks for no
    preprocessing. -/
theorem backend_unused_of_compileOnly :
    (∀ {H : Type} {context text} {events : List (Event H)} {result},
      context.mode = .compileOnly → (runFile H context text).Runs events result →
        ∀ event ∈ events, event.asksBackend = false) ∧
    (∀ {S S' C H H' : Type} {surroundings : Surroundings S H} {surroundings' : Surroundings S' H'}
        {view : S → C} {view' : S' → C} {consultants : Consultants C} {context s s'} (text : Text),
      context.mode = .compileOnly → surroundings.Consults view consultants →
        surroundings'.Consults view' consultants → view s = view' s' →
        (runFileWith surroundings context text s).1 =
            (runFileWith surroundings' context text s').1 ∧
          surroundings.consultations context text s =
            surroundings'.consultations context text s') ∧
    ∀ {H : Type} {context text} {events : List (Event H)} {result},
      context.mode = .run → (runFile H context text).Runs events result →
        ∀ event ∈ events, event.preprocesses = false := by
  refine ⟨fun {H context text _ _} hmode hrun => ?_,
    fun text hmode hconsults hconsults' hview => ?_, fun hmode hrun event hevent => ?_⟩
  · have hlockstep : Lockstep (· = ·) (runFile H context text) (runFile Unit context text) :=
      runFile_lockstep hmode text
    exact hlockstep.asksBackend_eq_false hrun
  · exact (runFile_lockstep hmode text).answer hconsults hconsults' hview
  · refine Bool.eq_false_iff.mpr fun hpreprocesses => ?_
    have honly := mode_of_runs hrun event hevent hpreprocesses
    rw [hmode] at honly
    cases honly

/-- The compiler of a journal, which remembers what it was asked to compile. -/
def Journal.consultants (script : Journal.Script) :
    Consultants (List (ShaderType × ShaderModel)) where
  compile source type model _ compiled :=
    (((Journal.State.fresh none).compile script source type model).1, compiled ++ [(type, model)])
  preprocess text compiled := (Journal.preprocess text, compiled)
  log _ compiled := compiled

/-- A journal asks its consultants. -/
theorem Journal.consults (script : Journal.Script) :
    (Journal.surroundings script).Consults Journal.State.compiled (Journal.consultants script) where
  compile source type model options s := by
    simp only [Journal.surroundings, Journal.consultants, Journal.State.compile]
    split
    · rfl
    · split <;> rfl
  preprocess _ _ := rfl
  log _ _ := rfl

/-- A file with a resource, a shader, a preprocessor block and a test. -/
def mixed : Text :=
  ("[srv 0]\n1\n[pixel shader]\nbody\n[preproc]\npass\n" ++ "[test]\ndraw quad\n").toList

/-- A compiler alone is asked to compile the shader at three models and to preprocess, and so is
    the same compiler with the backend of a journal. -/
theorem backend_unused_of_compileOnly_mixed :
    let context : RunContext := ⟨"mixed", .compileOnly, .plain⟩
    let alone := CompileOnly.surroundings (Journal.consultants .willing).compile
      (Journal.consultants .willing).preprocess (Journal.consultants .willing).log
    (runFileWith alone context mixed []).2 =
        [(.pixel, .sm2_0), (.pixel, .sm4_0), (.pixel, .sm6_0)] ∧
      (runFileWith (Journal.surroundings .willing) context mixed (.fresh none)).1 =
        (runFileWith alone context mixed []).1 ∧
      (Journal.surroundings .willing).consultations context mixed (.fresh none) =
        alone.consultations context mixed [] ∧
      (∀ event ∈ journalEvents .willing none context mixed, event.asksBackend = false) ∧
      ∀ event ∈ journalEvents .willing none ⟨"mixed", .run, .plain⟩ mixed,
        event.preprocesses = false := by
  intro context alone
  have hmode : context.mode = .compileOnly := rfl
  have hview : (Journal.State.fresh none).compiled = id [] := rfl
  have hagree := backend_unused_of_compileOnly.2.1 mixed hmode (Journal.consults .willing)
    (CompileOnly.consults (Journal.consultants .willing)) hview
  refine ⟨by decide +kernel, hagree.1, hagree.2, ?_, ?_⟩
  · exact backend_unused_of_compileOnly.1 hmode (runs_journalEvents .willing none context mixed)
  · exact backend_unused_of_compileOnly.2.2 rfl (runs_journalEvents .willing none _ mixed)

end ShaderConformance
