import ShaderConformance.Proofs.Invariants

/-!
# What a step leaves as it was

The range of models, the compile options and the test action are decided by require blocks,
apart from sources that are not accepted.  Every other step leaves them as they are, and asks
all that it asks under them.

## Main definitions

- `Session.scope`: what requirements decide
- `IsScopedOn`, `IsScoped`: a property in which only the scope of the session counts

## Main statement

- `IsScopedOn.isInvariant`: such a property is an invariant unless requirements or a source that
  is not accepted stand against it
-/

namespace ShaderConformance

variable {H : Type}

/-- What the requirements of a file decide about its tests. -/
structure Scope where
  minimumModel : ShaderModel
  maximumModel : ShaderModel
  options : CompileOptions
  action : TestAction
  skipReason : Option String

/-- What requirements decided about the tests of a run. -/
def Session.scope (s : Session H) : Scope :=
  ⟨s.minimumModel, s.maximumModel, s.options, s.action, s.skipReason⟩

/-- If something is created, it is in `A`. -/
def Deed.IsIn (A : ResourceDesc → List UInt8 → Prop) : Deed H → Prop
  | .request (.create desc data) => A desc data
  | _ => True

/-- A quiet deed creates nothing. -/
theorem Deed.isIn_of_isQuiet {A : ResourceDesc → List UInt8 → Prop} {deed : Deed H}
    (h : deed.isQuiet = true) : deed.IsIn A := by
  cases deed with
  | request q => cases q <;> trivial
  | note n => trivial

/-- Only the scope of the session counts, and nothing that is done in a session with the
    property stands against it, if what is created is in `A`. -/
structure IsScopedOn (A : ResourceDesc → List UInt8 → Prop)
    (I : List (Event H) → Session H → Prop) : Prop where
  event : ∀ ⦃history session⦄ (deed : Deed H) (answer : deed.Answer), deed.IsIn A →
    I history session → I (history ++ [⟨⟨session, deed⟩, answer⟩]) session
  congr : ∀ ⦃history session session'⦄, session'.scope = session.scope → I history session →
    I history session'

/-- Only the scope of the session counts, and nothing that is done in a session with the
    property stands against it. -/
abbrev IsScoped (I : List (Event H) → Session H → Prop) : Prop := IsScopedOn (fun _ _ => True) I

namespace IsScopedOn

open Step

variable {E : Type} {A : ResourceDesc → List UInt8 → Prop} {I : List (Event H) → Session H → Prop}
  {context : RunContext} (h : IsScopedOn A I)

include h

/-! ## Requests, reports and changes -/

/-- What looks at the scope only is steady. -/
theorem isSteady : IsSteady I where
  quiet _ _ deed answer hquiet := h.event deed answer (Deed.isIn_of_isQuiet hquiet)
  settings _ _ _ _ _ _ _ := h.congr rfl
  samplers _ _ _ := h.congr rfl

/-- A request that creates what it may keeps the property. -/
theorem ask_upholds (q : Request H) (hq : (Deed.request q).IsIn A) :
    Upholds I (ask q : Step H E q.Answer) :=
  .ask fun _ _ a => h.event (.request q) a hq

/-- A note changes no scope. -/
theorem note_upholds (n : Note) : Upholds I (note n : Step H E Unit) :=
  .note fun _ _ => h.event (.note n) () trivial

theorem modifySession_upholds {f : Session H → Session H}
    (hf : ∀ session, (f session).scope = session.scope) :
    Upholds I (modifySession f : Step H E Unit) :=
  .modifySession fun _ session => h.congr (hf session)

/-! ## Resources -/

theorem register_upholds (desc : ResourceDesc) (handle : H) :
    Upholds I (register desc handle : Step H Fault Unit) := by
  refine .bind (h.modifySession_upholds fun _ => rfl) fun _ => .session_bind fun session => ?_
  refine .bind (h.modifySession_upholds fun _ => rfl) fun _ =>
    .bind (.ofExcept _) fun replaced => ?_
  cases replaced with
  | some old => exact h.ask_upholds _ trivial
  | none => exact .pure _

theorem creationFailed_upholds (desc : ResourceDesc) (line : Nat) (error : BackendError) :
    Upholds I (creationFailed context desc line error : Step H Fault Unit) := by
  refine .bind (h.modifySession_upholds fun _ => rfl) fun _ => ?_
  cases error with
  | unsupported reason => exact h.isSteady.skip_upholds _ _
  | failed reason => exact h.isSteady.check_upholds _

/-- A creation of what may be created keeps the property. -/
theorem createResource_upholds (desc : ResourceDesc) (data : List UInt8) (line : Nat)
    (hA : A desc data) :
    Upholds I (createResource context desc data line : Step H Fault Bool) := by
  refine .bind (h.ask_upholds _ trivial) fun _ => .bind (h.ask_upholds _ hA) fun created => ?_
  cases created with
  | ok handle => exact .bind (h.register_upholds desc handle) fun _ => .pure _
  | error error => exact .bind (h.creationFailed_upholds desc line error) fun _ => .pure _

/-! ## Shaders -/

/-- A source that is not accepted makes tests be skipped. -/
theorem finishShader_upholds (hskip : ∀ reason, Upholds I (skipTests reason : Step H E Unit))
    (header : ShaderHeader) (text : Text) (line : Nat) :
    Upholds I (finishShader context header text line : Step H E Unit) := by
  refine .bind (h.note_upholds _) fun _ => .bind (h.modifySession_upholds fun _ => rfl) fun _ =>
    .session_bind fun session => ?_
  cases session.action with
  | skip => exact .pure _
  | compile => exact h.isSteady.compileBlock_upholds header _ line
  | run =>
    refine .ite ?_ (.bind (h.ask_upholds _ trivial) fun _ => hskip _)
    exact .session_bind fun session => .bind (h.isSteady.compile_upholds _ _ _) fun result =>
      .bind (h.isSteady.checkCompile_upholds header _ result line) fun _ =>
        h.modifySession_upholds fun _ => rfl

/-- To compile a stage again changes no scope. -/
theorem refreshStage_upholds (type : ShaderType) :
    Upholds I (refreshStage context type : Step H E Unit) := by
  refine .session_bind fun session => .ite ?_ (.pure _)
  cases (session.stage type).source with
  | none => exact .pure _
  | some source =>
    refine .bind (h.isSteady.compile_upholds _ _ _) fun result => ?_
    cases result with
    | ok compiled => exact h.modifySession_upholds fun _ => rfl
    | error error =>
      exact .bind (h.ask_upholds _ trivial) fun _ => h.modifySession_upholds fun _ => rfl

theorem compileQuad_upholds (spot : Spot) :
    Upholds I (compileQuad context spot : Step H E Bool) := by
  refine .session_bind fun session => .bind (h.isSteady.compile_upholds _ _ _) fun result =>
    .bind (h.note_upholds _) fun _ => .bind (h.modifySession_upholds fun _ => rfl) fun _ => ?_
  cases result with
  | ok compiled => exact .pure _
  | error error => exact .bind (h.isSteady.check_upholds _) fun _ => .pure _

/-! ## Files -/

theorem teardown_upholds : Upholds I (teardown : Step H E Unit) :=
  .teardown (fun _ _ resource => h.event (.request (.destroy resource)) () trivial)
    fun _ _ _ => h.congr rfl

/-- Only requirements and sources that are not accepted change the scope. -/
theorem isInvariant
    (hrequire : ∀ block, Upholds I (finishRequire context block : Step H Fault Unit))
    (hskip : ∀ reason, Upholds I (skipTests reason : Step H Fault Unit)) :
    IsInvariantOn A context I where
  toIsSteady := h.isSteady
  require := hrequire
  shader := h.finishShader_upholds hskip
  resource := h.createResource_upholds
  refresh := h.refreshStage_upholds
  quad := h.compileQuad_upholds

/-- A whole file keeps an invariant that looks at the scope only. -/
theorem readAndTearDown_upholds (hinvariant : IsInvariantOn A context I) (hA : Admits A)
    (text : Text) : Upholds I (readAndTearDown context text : Step H LocatedFault Unit) :=
  .readAndTearDown (hinvariant.readFile_upholds hA text) h.teardown_upholds

/-- What holds when a run starts holds of all that has happened when it ends. -/
theorem of_runs (hinvariant : IsInvariantOn A context I) (hA : Admits A)
    (hstart : I [] (RunState.start context).session) {text : Text} {events : List (Event H)}
    {result : RunResult} (hrun : (runFile H context text).Runs events result) :
    ∃ session, I events session :=
  (h.readAndTearDown_upholds hinvariant hA text).of_runs h.isSteady hstart hrun

end IsScopedOn

namespace IsScoped

open Step

variable {I : List (Event H) → Session H → Prop} {context : RunContext} (h : IsScoped I)

include h

/-- The same without a property of descriptions. -/
theorem readAndTearDown_upholds (hinvariant : IsInvariant context I) (text : Text) :
    Upholds I (readAndTearDown context text : Step H LocatedFault Unit) :=
  IsScopedOn.readAndTearDown_upholds h hinvariant admits_all text

/-- What holds at the start of a run and is kept holds at its end. -/
theorem of_runs (hinvariant : IsInvariant context I)
    (hstart : I [] (RunState.start context).session) {text : Text} {events : List (Event H)}
    {result : RunResult} (hrun : (runFile H context text).Runs events result) :
    ∃ session, I events session :=
  IsScopedOn.of_runs h hinvariant admits_all hstart hrun

end IsScoped

end ShaderConformance
