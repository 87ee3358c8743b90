import ShaderConformance.Proofs.Reading
import ShaderConformance.Proofs.Reports

/-!
# Invariants of what has happened

A property of the session and of all that has happened before holds between the lines of a
file if it withstands the few steps that store, compile or create something for the session,
and the end of a require block.  All other steps only ask something, report, or set what draws
see.  Of the creations only those count that a run can come to: of what resource blocks stand
for, and of the parts of a quad.

## Main definitions

- `Step.Upholds`: a step keeps up a property of what has happened and of the session
- `IsSteady`, `IsInvariantOn`, `IsInvariant`: what a property has to withstand
- `Admits`: all that a run creates is of a kind

## Main statements

- `IsInvariantOn.readLine_upholds`, `IsInvariantOn.closeOpen_upholds`: reading a line, and ending
  a block
- `IsInvariantOn.readOpen_upholds`: reading lines
- `Step.Upholds.of_runs`: a run of a file
-/

namespace ShaderConformance

variable {H : Type}

/-! ## What does not matter -/

/-- A request that neither creates nor destroys anything. -/
def Request.isQuiet : Request H → Bool
  | .create _ _ | .destroy _ => false
  | .clear _ _ | .draw _ _ _ _ | .dispatch _ _ _ _ | .copy _ _ | .readback _ _
  | .compile _ _ _ _ | .preprocess _ | .log _ => true

/-- Everything but what creates, destroys or stores something. -/
def Deed.isQuiet : Deed H → Bool
  | .request q => q.isQuiet
  | .note (.store _ _) => false
  | .note (.turn _) | .note (.check _) | .note (.skip _ _) => true

namespace Step

variable {E E' T U : Type} {I : List (Event H) → Session H → Prop} {context : RunContext}

/-! ## Steps that keep up a property -/

/-- Whatever has happened before, what `I` says of it and of the session goes on to hold. -/
def Upholds (I : List (Event H) → Session H → Prop) (x : Step H E T) : Prop :=
  ∀ ⦃s events r s'⦄, x.Runs s events r s' →
    ∀ ⦃history⦄, I history s.session → I (history ++ events) s'.session

namespace Upholds

/-- A step that only has a value does nothing. -/
theorem pure (value : T) : Upholds I (pure value : Step H E T) := by
  intro s events r s' h history hI
  obtain ⟨rfl, -, rfl⟩ := runs_pure_iff.mp h
  rwa [List.append_nil]

/-- A step that refuses does nothing. -/
theorem refuse (fault : E) : Upholds I (refuse fault : Step H E T) := by
  intro s events r s' h history hI
  obtain ⟨rfl, -, rfl⟩ := runs_refuse_iff.mp h
  rwa [List.append_nil]

/-- A result that is there already asks for nothing. -/
theorem ofExcept (result : Except E T) : Upholds I (ofExcept result : Step H E T) := by
  cases result with
  | ok value => exact pure value
  | error fault => exact refuse fault

/-- One step after another keeps what both keep. -/
theorem bind {x : Step H E T} {f : T → Step H E U} (hx : Upholds I x)
    (hf : ∀ a, Upholds I (f a)) : Upholds I (x >>= f) := by
  intro s events r s' h history hI
  obtain ⟨before, a, t, after, hrun, hrest, rfl⟩ | ⟨_, hrun, -⟩ := runs_bind_iff.mp h
  · -- What happens at the first step joins the history of the second.
    rw [← List.append_assoc]
    exact hf a hrest (hx hrun hI)
  · exact hx hrun hI

/-- To look at the session changes nothing. -/
theorem session_bind {f : Session H → Step H E T} (hf : ∀ session, Upholds I (f session)) :
    Upholds I (session >>= f) :=
  fun s _ _ _ h => hf s.session (runs_session_bind_iff.mp h)

/-- What is changed outside of the session is not seen. -/
theorem modify_bind {g : RunState H → RunState H} {f : PUnit → Step H E T}
    (hg : ∀ s, (g s).session = s.session) (hf : Upholds I (f ⟨⟩)) :
    Upholds I (modify g >>= f) := by
  intro s events r s' h history hI
  exact hf (runs_modify_bind_iff.mp h) (by rwa [hg])

/-- A change of the session has to keep the property. -/
theorem modifySession {f : Session H → Session H}
    (hf : ∀ ⦃history session⦄, I history session → I history (f session)) :
    Upholds I (modifySession f : Step H E Unit) := by
  intro s events r s' h history hI
  obtain ⟨rfl, -, rfl⟩ := runs_modifySession_iff.mp h
  rw [List.append_nil]
  exact hf hI

/-- A request has to keep the property, whatever its answer. -/
theorem ask {q : Request H}
    (hq : ∀ ⦃history session⦄ (a : q.Answer), I history session →
      I (history ++ [⟨⟨session, .request q⟩, a⟩]) session) :
    Upholds I (ask q : Step H E q.Answer) := by
  intro s events r s' h history hI
  obtain ⟨a, rfl, -, rfl⟩ := runs_ask_iff.mp h
  exact hq a hI

/-- A note has to keep the property. -/
theorem note {n : Note}
    (hn : ∀ ⦃history session⦄, I history session →
      I (history ++ [⟨⟨session, .note n⟩, ()⟩]) session) :
    Upholds I (note n : Step H E Unit) := by
  intro s events r s' h history hI
  obtain ⟨rfl, -, rfl⟩ := runs_note_iff.mp h
  exact hn hI

/-- To name a fault differently changes nothing. -/
theorem mapFault {x : Step H E T} (f : E → E') (hx : Upholds I x) :
    Upholds I (mapFault f x) := by
  intro s events r s' h
  obtain ⟨_, hrun, -⟩ := runs_mapFault_iff.mp h
  exact hx hrun

/-- A step and what is done about its fault both keep the property. -/
theorem tryCatch {x : Step H E T} {handler : E → Step H E T} (hx : Upholds I x)
    (hhandler : ∀ fault, Upholds I (handler fault)) : Upholds I (tryCatch x handler) := by
  intro s events r s' h history hI
  obtain ⟨_, hrun, -⟩ | ⟨before, fault, t, after, hrun, hrest, rfl⟩ := runs_tryCatch_iff.mp h
  · exact hx hrun hI
  · rw [← List.append_assoc]
    exact hhandler fault hrest (hx hrun hI)

theorem ite {p : Prop} [Decidable p] {x y : Step H E T} (hx : Upholds I x) (hy : Upholds I y) :
    Upholds I (if p then x else y) := by
  split
  · exact hx
  · exact hy

end Upholds

/-! ## Values of steps -/

/-- Every value that a step comes to has a property. -/
def Yields (Q : T → Prop) (x : Step H E T) : Prop :=
  ∀ ⦃s events a s'⦄, x.Runs s events (.ok a) s' → Q a

namespace Yields

variable {P : T → Prop} {Q : U → Prop}

/-- A step that only has a value yields it. -/
theorem pure {value : T} (h : P value) : Yields P (pure value : Step H E T) := by
  intro s events a s' hrun
  obtain ⟨-, ha, -⟩ := runs_pure_iff.mp hrun
  cases ha
  exact h

/-- A step that refuses yields nothing. -/
theorem refuse (fault : E) : Yields P (refuse fault : Step H E T) := by
  intro s events a s' hrun
  cases (runs_refuse_iff.mp hrun).2.1

/-- What the first step yields is what the second one may rely on. -/
theorem bind {x : Step H E T} {f : T → Step H E U} (hx : Yields P x)
    (hf : ∀ a, P a → Yields Q (f a)) : Yields Q (x >>= f) := by
  intro s events b s' hrun
  obtain ⟨_, a, t, _, hfirst, hrest, -⟩ | ⟨_, -, hfault⟩ := runs_bind_iff.mp hrun
  · exact hf a (hx hfirst) hrest
  · cases hfault

/-- What comes last alone has the property. -/
theorem last {x : Step H E T} {f : T → Step H E U} (hf : ∀ a, Yields Q (f a)) :
    Yields Q (x >>= f) :=
  .bind (P := fun _ => True) (fun _ _ _ _ _ => trivial) fun a _ => hf a

/-- A result that is there already is yielded as it is. -/
theorem ofExcept (result : Except E T) :
    Yields (result = .ok ·) (ofExcept result : Step H E T) := by
  cases result with
  | ok value => exact pure rfl
  | error fault => exact refuse fault

/-- To name a fault differently changes no value. -/
theorem mapFault {x : Step H E T} (f : E → E') (hx : Yields P x) :
    Yields P (mapFault f x) := by
  intro s events a s' hrun
  obtain ⟨r, hrun, ha⟩ := runs_mapFault_iff.mp hrun
  cases r with
  | error fault => cases ha
  | ok value =>
    cases ha
    exact hx hrun

end Yields

/-- What the first step comes to may be used for the second one. -/
theorem Upholds.bind_yields {P : T → Prop} {x : Step H E T} {f : T → Step H E U}
    (hx : Upholds I x) (hvalue : Yields P x) (hf : ∀ a, P a → Upholds I (f a)) :
    Upholds I (x >>= f) := by
  intro s events r s' h history hI
  obtain ⟨before, a, t, after, hrun, hrest, rfl⟩ | ⟨_, hrun, -⟩ := runs_bind_iff.mp h
  · rw [← List.append_assoc]
    exact hf a (hvalue hrun) hrest (hx hrun hI)
  · exact hx hrun hI

end Step

open Step

/-! ## What a property has to withstand -/

/-- A property of what has happened and of the session is not about requests that create nothing,
    about reports, or about what draws see besides shaders and resources. -/
structure IsSteady (I : List (Event H) → Session H → Prop) : Prop where
  quiet : ∀ ⦃history session⦄ (deed : Deed H) (answer : deed.Answer), deed.isQuiet = true →
    I history session → I (history ++ [⟨⟨session, deed⟩, answer⟩]) session
  settings : ∀ ⦃history session⦄ inputElements uniforms viewports fixed lastRenderFailed,
    I history session →
      I history { session with inputElements, uniforms, viewports, fixed, lastRenderFailed }
  samplers : ∀ ⦃history session⦄ samplers, I history session →
    I history { session with registry := { session.registry with samplers } }

/-- A property withstands all that a run does at the lines of a file, if all that it creates is
    in `A`: it is kept up where something is stored, compiled for a stage or created, and at the
    end of a require block. -/
structure IsInvariantOn (A : ResourceDesc → List UInt8 → Prop) (context : RunContext)
    (I : List (Event H) → Session H → Prop) : Prop extends IsSteady I where
  require : ∀ block, Upholds I (finishRequire context block : Step H Fault Unit)
  shader : ∀ header text line, Upholds I (finishShader context header text line : Step H Fault Unit)
  resource : ∀ desc data line, A desc data → Upholds I (createResource context desc data line)
  refresh : ∀ type, Upholds I (refreshStage context type : Step H Fault Unit)
  quad : ∀ spot, Upholds I (compileQuad context spot : Step H Fault Bool)

/-- A property withstands all that a run does at the lines of a file, whatever it creates. -/
abbrev IsInvariant (context : RunContext) (I : List (Event H) → Session H → Prop) : Prop :=
  IsInvariantOn (fun _ _ => True) context I

/-- Whatever lines a block still takes, all that it may stand for is in `A`. -/
def ResourceBlock.Stands (A : ResourceDesc → List UInt8 → Prop) (b : ResourceBlock) : Prop :=
  ∀ lines b' desc, b.takeLines lines = .ok b' → checkedDesc b' = .ok desc → A desc b'.data

/-- All that a block may stand for is in `A`. -/
def Block.Stands (A : ResourceDesc → List UInt8 → Prop) : Block → Prop
  | .resource b => b.Stands A
  | _ => True

/-- All that a run creates is in `A`: what blocks stand for, and the parts of a quad. -/
structure Admits (A : ResourceDesc → List UInt8 → Prop) : Prop where
  block : ∀ type slot, (ResourceBlock.fresh type slot).Stands A
  target : A quadTarget []
  buffer : A quadBuffer quadVertices

/-- A property of everything admits what blocks describe. -/
theorem admits_all : Admits fun _ _ => True :=
  ⟨fun _ _ _ _ _ _ _ => trivial, trivial, trivial⟩

/-- Every block stands if no description has to be of a kind. -/
theorem Block.stands_all (block : Block) : block.Stands fun _ _ => True := by
  cases block with
  | resource => exact fun _ _ _ _ _ => trivial
  | _ => trivial

/-- A line that is taken in is one of the lines that a block still takes. -/
theorem ResourceBlock.Stands.takeLine {A : ResourceDesc → List UInt8 → Prop}
    {b b' : ResourceBlock} {text : Text} (h : b.Stands A) (htaken : b.takeLine text = (b', none)) :
    b'.Stands A := by
  intro lines last desc hlines hchecked
  refine h (text :: lines) last desc ?_ hchecked
  rw [ResourceBlock.takeLines, htaken]
  exact hlines

namespace IsSteady

variable {E T : Type} {context : RunContext} {I : List (Event H) → Session H → Prop}
  (h : IsSteady I) {spot : Spot}

include h

/-! ## Reports and settings -/

/-- A quiet request keeps a steady property. -/
theorem ask_upholds {q : Request H} (hq : q.isQuiet = true) :
    Upholds I (ask q : Step H E q.Answer) :=
  .ask fun _ _ a => h.quiet (.request q) a hq

/-- A quiet note keeps a steady property. -/
theorem note_upholds {n : Note} (hn : (Deed.note n : Deed H).isQuiet = true) :
    Upholds I (note n : Step H E Unit) :=
  .note fun _ _ => h.quiet (.note n) () hn

/-- What is logged is quiet. -/
theorem log_upholds (level : LogLevel) (text : String) :
    Upholds I (log level text : Step H E Unit) :=
  h.ask_upholds rfl

/-- A check is quiet, and only adds to the counters. -/
theorem check_upholds (c : Check) : Upholds I (check context c : Step H E Unit) := by
  refine .bind (h.note_upholds rfl) fun _ => .modify_bind (fun _ => rfl) ?_
  cases c.entry? context.file with
  | none => exact .pure _
  | some entry => exact h.ask_upholds rfl

/-- What is skipped is only counted. -/
theorem skip_upholds (line : Nat) (reason : String) :
    Upholds I (skip context line reason : Step H E Unit) :=
  .bind (h.note_upholds rfl) fun _ => .modify_bind (fun _ => rfl) (h.ask_upholds rfl)

/-- The state of the fixed functions is none that a steady property looks at. -/
theorem modifyFixed_upholds (f : FixedFunctionState → FixedFunctionState) :
    Upholds I (modifyFixed f : Step H E Unit) :=
  .modifySession fun _ session hI => h.settings session.inputElements session.uniforms
    session.viewports (f session.fixed) session.lastRenderFailed hI

/-- The input elements are nothing that a steady property looks at. -/
theorem inputElements_upholds (f : List InputElement → List InputElement) :
    Upholds I (modifySession fun s => { s with inputElements := f s.inputElements } :
      Step H E Unit) :=
  .modifySession fun _ session hI => h.settings (f session.inputElements) session.uniforms
    session.viewports session.fixed session.lastRenderFailed hI

/-! ## Uses of resources -/

/-- An expected success is checked, and no more. -/
theorem expectSuccess_upholds (ok : Bool) (message : String) :
    Upholds I (expectSuccess context spot ok message : Step H E Unit) :=
  .ite (.pure _) (h.check_upholds _)

/-- A render is checked, and whether it failed is kept. -/
theorem rendered_upholds (ok : Bool) (message : String) :
    Upholds I (rendered context spot ok message : Step H E Unit) :=
  .bind (.modifySession fun _ session hI => h.settings session.inputElements session.uniforms
    session.viewports session.fixed (!ok) hI) fun _ => h.expectSuccess_upholds ok message

omit h in
/-- A resource is looked up without a request. -/
theorem lookup_upholds (ref : ResourceRef) :
    Upholds I (lookup ref : Step H Fault (Resource H)) :=
  .session_bind fun session => by
    cases session.registry.get? ref with
    | some resource => exact .pure _
    | none => exact .refuse _

/-- To clear a resource is a quiet request. -/
theorem clear_upholds (ref : ResourceRef) (value : ClearValue) (message : String) :
    Upholds I (clear context spot ref value message : Step H Fault Unit) :=
  .bind (lookup_upholds ref) fun _ =>
    .bind (h.ask_upholds rfl) fun ok => h.expectSuccess_upholds ok message

/-- To copy a resource is a quiet request. -/
theorem copy_upholds (source target : ResourceRef) :
    Upholds I (copy context spot source target : Step H Fault Unit) := by
  refine .bind (lookup_upholds source) fun read => .bind (lookup_upholds target) fun written => ?_
  cases copyMismatch? read.desc written.desc with
  | some mismatch => exact .refuse _
  | none => exact .bind (h.ask_upholds rfl) fun ok => h.expectSuccess_upholds ok _

/-- What was read back is compared without a request. -/
theorem compareProbe_upholds (contents : Readback) (rect : ProbeRect) (value : ProbeValue)
    (steps : UInt32) :
    Upholds I (compareProbe context spot contents rect value steps : Step H Fault Unit) := by
  unfold compareProbe
  split
  · exact .refuse _
  · exact h.check_upholds _
  · exact h.check_upholds _

/-- To read back is a quiet request. -/
theorem readProbe_upholds (ref : ResourceRef) (rect : ProbeRect) (value : ProbeValue)
    (steps : UInt32) :
    Upholds I (readProbe context spot ref rect value steps : Step H Fault Unit) := by
  refine .bind (lookup_upholds ref) fun resource => .bind (.ofExcept _) fun (subresource, area) =>
    .bind (h.ask_upholds rfl) fun answer => ?_
  cases answer with
  | error e => exact .refuse _
  | ok contents =>
    cases contents with
    | none => exact h.check_upholds _
    | some contents =>
      exact .bind (.ofExcept _) fun _ => h.compareProbe_upholds contents area value steps

/-! ## Compiles -/

/-- To compile is a quiet request. -/
theorem compile_upholds (source : ShaderSource) (type : ShaderType) (model : ShaderModel) :
    Upholds I (compile source type model : Step H E _) :=
  .session_bind fun _ => h.ask_upholds rfl

/-- The result of a compile is checked, and no more. -/
theorem checkCompile_upholds (header : ShaderHeader) (model : ShaderModel)
    (result : Except CompileError CompiledShader) (line : Nat) :
    Upholds I (checkCompile context header model result line : Step H E Unit) := by
  cases result with
  | ok compiled => exact h.check_upholds _
  | error error => exact .bind (h.ask_upholds rfl) fun _ => h.check_upholds _

/-- Each model is compiled for and checked on its own. -/
theorem compileVariants_upholds (header : ShaderHeader) (source : ShaderSource) (line : Nat)
    (models : List ShaderModel) :
    Upholds I (compileVariants context header source line models : Step H E Unit) := by
  induction models with
  | nil => exact .pure _
  | cons model models ih =>
    exact .bind (h.compile_upholds _ _ _) fun _ =>
      .bind (h.checkCompile_upholds header model _ line) fun _ => ih

/-- A block is compiled for the models of its range. -/
theorem compileBlock_upholds (header : ShaderHeader) (source : ShaderSource) (line : Nat) :
    Upholds I (compileBlock context header source line : Step H E Unit) :=
  .ite (.session_bind fun _ => h.compileVariants_upholds header source line _)
    (h.skip_upholds _ _)

end IsSteady

namespace IsInvariantOn

variable {A : ResourceDesc → List UInt8 → Prop} {context : RunContext}
  {I : List (Event H) → Session H → Prop} (h : IsInvariantOn A context I) (hA : Admits A)
  {spot : Spot}

include h

/-! ## Test lines -/

section TestLines

include hA

/-- If there is no render target, then one is created. -/
theorem ensureTarget_upholds (line : Nat) :
    Upholds I (ensureTarget context line : Step H Fault Bool) :=
  .session_bind fun session => by
    cases session.registry.get? quadTarget.ref with
    | some target => exact .pure _
    | none => exact h.resource _ _ _ hA.target

/-- A quad makes a target, a buffer and a draw. -/
theorem drawQuad_upholds : Upholds I (drawQuad context spot : Step H Fault Unit) := by
  refine .bind (h.ensureTarget_upholds hA _) fun _ => .ite ?_ (.pure _)
  refine .bind (h.inputElements_upholds fun _ => [quadElement]) fun _ =>
    .bind (h.quad spot) fun _ => .ite ?_ (.pure _)
  refine .bind (h.resource _ _ _ hA.buffer) fun _ => .ite ?_ (.pure _)
  exact .session_bind fun _ => .bind (h.ask_upholds rfl) fun ok => h.rendered_upholds ok _

/-- Every command keeps an invariant. -/
theorem execute_upholds (command : Command) :
    Upholds I (execute context spot command : Step H Fault Unit) := by
  cases command with
  | dispatch x y z =>
    exact .session_bind fun _ => .bind (h.ask_upholds rfl) fun ok => h.rendered_upholds ok _
  | draw topology vertices instances =>
    exact .session_bind fun _ => .bind (h.ask_upholds rfl) fun ok => h.rendered_upholds ok _
  -- The quad makes what it lacks first, so it is the one command that needs a resource added.
  | drawQuad => exact h.drawQuad_upholds hA
  | clearTarget slot colour => exact h.clear_upholds _ _ _
  | clearDepth depth => exact h.clear_upholds _ _ _
  | copy source target => exact h.copy_upholds source target
  | probe target rect value steps =>
    exact .session_bind fun _ =>
      .ite (h.log_upholds _ _) (h.readProbe_upholds target rect value steps)
  | uniform offset data =>
    exact .modifySession fun _ session hI => h.settings session.inputElements
      (Uniforms.write session.uniforms offset data) session.viewports session.fixed
      session.lastRenderFailed hI
  | viewport index viewport =>
    exact .modifySession fun _ session hI => h.settings session.inputElements session.uniforms
      (session.viewports.set index (some viewport) index.isLt) session.fixed
      session.lastRenderFailed hI
  -- The remaining commands set one field of the fixed state and ask for nothing.
  | depthFunc | depthBounds | sampleMask | alphaTest | shadeMode | clipPlane | pointSize
  | pointSprite | fog | fogColour =>
    rw [execute]
    exact h.modifyFixed_upholds _

omit hA in
/-- Stages are compiled again one after the other. -/
theorem refreshStages_upholds (types : List ShaderType) :
    Upholds I (refreshStages context types : Step H Fault Unit) := by
  induction types with
  | nil => exact .pure _
  | cons type types ih => exact .bind (h.refresh type) fun _ => ih

/-- The command of a line keeps an invariant. -/
theorem runCommand_upholds (test : TestLine) (line : Nat) :
    Upholds I (runCommand context test line : Step H Fault Unit) := by
  refine .bind (h.note_upholds rfl) fun _ => .bind (h.refreshStages_upholds _) fun _ =>
    .session_bind fun _ => ?_
  exact .ite (h.log_upholds _ _)
    (.bind (h.note_upholds rfl) fun _ => h.execute_upholds hA test.command)

/-- A line of a test block keeps an invariant. -/
theorem runTestLine_upholds (text : Text) (line : Nat) :
    Upholds I (runTestLine context text line : Step H Fault Unit) := by
  refine .session_bind fun _ => .ite ?_ (.pure _)
  refine .bind (.session_bind fun _ => .pure _) fun _ => .bind (.ofExcept _) fun test => ?_
  cases test with
  | none => exact .pure _
  | some test => exact h.runCommand_upholds hA test line

/-! ## Lines -/

omit h hA in
/-- What a block takes is no request. -/
theorem taken_upholds (make : T → Block) (result : T × Option Fault) :
    Upholds I (taken make result : Step H Fault Block) := by
  obtain ⟨value, fault⟩ := result
  cases fault with
  | none => exact .pure _
  | some fault => exact .refuse _

/-- A line of a block keeps an invariant. -/
theorem takeLine_upholds (block : Block) (text : Text) (line : Nat) :
    Upholds I (takeLine context block text line : Step H Fault Block) := by
  cases block with
  | none => exact .refuse _
  | inputLayout =>
    exact .bind (.ofExcept _) fun element =>
      .bind (h.inputElements_upholds fun elements => elements ++ [element]) fun _ => .pure _
  | require block => exact taken_upholds _ _
  | resource block => exact taken_upholds _ _
  | sampler sampler => exact taken_upholds _ _
  | test => exact .bind (h.runTestLine_upholds hA text line) fun _ => .pure _
  | shader | preproc => exact .pure _

omit hA in
/-- A header opens a block without a request. -/
theorem openBlock_upholds (text : Text) :
    Upholds I (openBlock context text : Step H Fault Block) := by
  refine .bind (.session_bind fun _ => .pure _) fun _ => .bind (.ofExcept _) fun header => ?_
  cases header with
  | inputLayout => exact .bind (h.inputElements_upholds fun _ => []) fun _ => .pure _
  | require | test | preproc | shader | resource | sampler => exact .pure _

omit hA in
/-- The place of a header does not matter. -/
theorem openAt_upholds (text : Text) (line : Nat) :
    Upholds I (openAt context text line : Step H LocatedFault OpenBlock) :=
  .bind (.mapFault _ (h.openBlock_upholds text)) fun _ =>
    .bind (h.log_upholds _ _) fun _ => .pure _

/-- A line of the body of a block keeps an invariant. -/
theorem bodyLine_upholds (current : OpenBlock) (text : Text) (line : Nat) :
    Upholds I (bodyLine context current text line : Step H LocatedFault OpenBlock) := by
  unfold bodyLine
  cases current.block.collect? text with
  | some block => exact .pure _
  | none =>
    exact .ite (.pure _) (.bind (h.log_upholds _ _) fun _ =>
      .bind (.mapFault _ (h.takeLine_upholds hA current.block text line)) fun _ => .pure _)

end TestLines

/-! ## Ends of blocks -/

/-- A resource is created as its block describes it. -/
theorem finishResource_upholds {block : ResourceBlock} (hblock : block.Stands A) (line : Nat) :
    Upholds I (finishResource context block line : Step H Fault Unit) := by
  refine .bind_yields (.ofExcept _) (.ofExcept _) fun desc hdesc => .session_bind fun _ =>
    .ite (.bind (h.resource desc block.data line ?_) fun _ => .pure _) (.pure _)
  exact hblock [] block desc rfl hdesc

/-- A sampler only changes the registry. -/
theorem finishSampler_upholds (sampler : SamplerDesc) :
    Upholds I (finishSampler sampler : Step H Fault Unit) := by
  intro s events r s' hrun history hI
  rw [finishSampler, runs_session_bind_iff, runs_modifySession_bind_iff] at hrun
  obtain ⟨rfl, rfl⟩ := runs_ofExcept hrun
  rw [List.append_nil]
  -- Only the samplers of the registry are others.
  change I history { s.session with registry := (s.session.registry.setSampler sampler).2 }
  rw [Registry.setSampler_snd]
  exact h.samplers _ hI

/-- To preprocess a text is a quiet request. -/
theorem finishPreproc_upholds (text : Text) (refused : Bool) (line : Nat) :
    Upholds I (finishPreproc context text refused line : Step H Fault Unit) := by
  refine .session_bind fun _ => .ite (.bind (h.ask_upholds rfl) fun result => ?_) (.pure _)
  cases preprocCheck result refused line with
  | ok c => exact h.check_upholds c
  | error reason => exact h.skip_upholds _ _

/-- The end of a block of any kind keeps an invariant. -/
theorem finishBlock_upholds {block : Block} (hblock : block.Stands A) (line : Nat) :
    Upholds I (finishBlock context block line : Step H Fault Unit) := by
  refine .bind (h.note_upholds rfl) fun _ => ?_
  cases block with
  | none | inputLayout => exact .pure _
  | test => exact .session_bind fun _ => .ite (h.skip_upholds _ _) (.pure _)
  | require block => exact h.require block
  | resource block => exact h.finishResource_upholds hblock line
  | sampler sampler => exact h.finishSampler_upholds sampler
  | shader header text => exact h.shader header text line
  | preproc refused text => exact h.finishPreproc_upholds text refused line

/-- The end of an open block keeps an invariant. -/
theorem closeOpen_upholds {current : OpenBlock} (hcurrent : current.block.Stands A) :
    Upholds I (closeOpen context current : Step H LocatedFault Unit) :=
  .mapFault _ (h.finishBlock_upholds hcurrent current.line)

/-! ## Open blocks -/

section OpenBlocks

omit h

/-- What a block has taken stands if the block after the line does. -/
theorem taken_yields {make : T → Block} {result : T × Option Fault}
    (hmake : result.2 = none → (make result.1).Stands A) :
    Yields (Block.Stands A) (taken make result : Step H Fault Block) := by
  obtain ⟨value, fault⟩ := result
  cases fault with
  | none => exact .pure (hmake rfl)
  | some fault => exact .refuse fault

/-- A line leaves a block that stands for nothing more. -/
theorem takeLine_yields {block : Block} (hblock : block.Stands A) (text : Text) (line : Nat) :
    Yields (Block.Stands A) (takeLine context block text line : Step H Fault Block) := by
  cases block with
  | none => exact .refuse _
  | inputLayout => exact .last fun _ => .last fun _ => .pure trivial
  | require block => exact taken_yields fun _ => trivial
  | sampler sampler => exact taken_yields fun _ => trivial
  | resource block =>
    refine taken_yields fun hnone => ?_
    have htaken : block.takeLine text = ((block.takeLine text).1, none) := by rw [← hnone]
    exact hblock.takeLine htaken
  | test => exact .last fun _ => .pure trivial
  | shader | preproc => exact .pure trivial

/-- Text that is collected as it is leaves a block that stands. -/
theorem collect?_stands {block block' : Block} {text : Text}
    (h : block.collect? text = some block') : block'.Stands A := by
  cases block with
  | preproc | shader => cases h; trivial
  | _ => cases h

/-- A line leaves a block that stands. -/
theorem bodyLine_yields {current : OpenBlock} (hcurrent : current.block.Stands A) (text : Text)
    (line : Nat) :
    Yields (·.block.Stands A) (bodyLine context current text line :
      Step H LocatedFault OpenBlock) := by
  unfold bodyLine
  cases hcollect : current.block.collect? text with
  | some block => exact .pure (collect?_stands hcollect)
  | none =>
    dsimp only
    split
    · exact .pure hcurrent
    · exact .last fun _ => .bind (.mapFault _ (takeLine_yields hcurrent text line))
        fun _ hblock => .pure hblock

variable (hA : Admits A)

include hA

/-- A header opens a block that stands. -/
theorem openBlock_yields (text : Text) :
    Yields (Block.Stands A) (openBlock context text : Step H Fault Block) := by
  refine .last fun _ => .last fun header => ?_
  cases header with
  | inputLayout => exact .last fun _ => .pure trivial
  | resource ref => exact .pure (hA.block ref.type ref.slot)
  | require | test | preproc | shader | sampler => exact .pure trivial

/-- The place of a header does not matter for what it opens. -/
theorem openAt_yields (text : Text) (line : Nat) :
    Yields (·.block.Stands A) (openAt context text line : Step H LocatedFault OpenBlock) :=
  .bind (.mapFault _ (openBlock_yields hA text)) fun _ hblock => .last fun _ => .pure hblock

/-- Behind a line there is a block that stands. -/
theorem readLine_yields {current : OpenBlock} (hcurrent : current.block.Stands A) (text : Text)
    (line : Nat) :
    Yields (·.block.Stands A) (readLine context current text line :
      Step H LocatedFault OpenBlock) := by
  unfold readLine
  split
  · rw [headerLine_eq]
    exact .last fun _ => openAt_yields hA text line
  · exact bodyLine_yields hcurrent text line

end OpenBlocks

/-! ## Files -/

include hA

/-- A line keeps an invariant if the block before it stands. -/
theorem readLine_upholds {current : OpenBlock} (hcurrent : current.block.Stands A) (text : Text)
    (line : Nat) :
    Upholds I (readLine context current text line : Step H LocatedFault OpenBlock) := by
  refine .ite ?_ (h.bodyLine_upholds hA current text line)
  rw [headerLine_eq]
  exact .bind (h.closeOpen_upholds hcurrent) fun _ => h.openAt_upholds text line

/-- The lines of a file keep an invariant, one by one. -/
theorem readOpen_upholds {current : OpenBlock} (hcurrent : current.block.Stands A) (line : Nat)
    (lines : List Text) :
    Upholds I (readOpen context current line lines : Step H LocatedFault OpenBlock) := by
  -- By induction on the lines; the block that is open stands for nothing more after each.
  induction lines generalizing current line with
  | nil => exact .pure _
  | cons text more ih =>
    exact .bind_yields (h.readLine_upholds hA hcurrent text line)
      (readLine_yields hA hcurrent text line) fun _ hnext => ih hnext (line + 1)

omit h in
/-- Behind the last line there is a block that stands. -/
theorem readOpen_yields {current : OpenBlock} (hcurrent : current.block.Stands A) (line : Nat)
    (lines : List Text) :
    Yields (·.block.Stands A) (readOpen context current line lines :
      Step H LocatedFault OpenBlock) := by
  induction lines generalizing current line with
  | nil => exact .pure hcurrent
  | cons text more ih =>
    exact .bind (readLine_yields hA hcurrent text line) fun _ hnext => ih hnext (line + 1)

/-- The reading of a file keeps an invariant. -/
theorem readFile_upholds (text : Text) :
    Upholds I (readFile context text : Step H LocatedFault Unit) := by
  rw [readFile, readLines_eq_readOpen]
  have hstart : (Block.none).Stands A := trivial
  exact .bind_yields (h.readOpen_upholds hA hstart _ _) (readOpen_yields hA hstart _ _)
    fun _ hlast => h.closeOpen_upholds hlast

end IsInvariantOn

namespace IsInvariant

variable {context : RunContext} {I : List (Event H) → Session H → Prop}
  (h : IsInvariant context I)

include h

/-- A line keeps an invariant that asks nothing of descriptions. -/
theorem readLine_upholds (current : OpenBlock) (text : Text) (line : Nat) :
    Upholds I (readLine context current text line : Step H LocatedFault OpenBlock) :=
  IsInvariantOn.readLine_upholds h admits_all current.block.stands_all text line

theorem readOpen_upholds (current : OpenBlock) (line : Nat) (lines : List Text) :
    Upholds I (readOpen context current line lines : Step H LocatedFault OpenBlock) :=
  IsInvariantOn.readOpen_upholds h admits_all current.block.stands_all line lines

end IsInvariant

namespace Step.Upholds

variable {E : Type} {I : List (Event H) → Session H → Prop} {context : RunContext}

/-- Resources are destroyed one by one. -/
theorem destroyAll
    (hdestroy : ∀ ⦃history session⦄ resource, I history session →
      I (history ++ [⟨⟨session, .request (.destroy resource)⟩, ()⟩]) session)
    (resources : List (Resource H)) : Upholds I (destroyAll resources : Step H E Unit) := by
  induction resources with
  | nil => exact .pure _
  | cons resource more ih =>
    exact .bind (.ask fun _ _ _ hI => hdestroy resource hI) fun _ => ih

/-- The end of a run, at which all that is live is destroyed. -/
theorem teardown
    (hdestroy : ∀ ⦃history session⦄ resource, I history session →
      I (history ++ [⟨⟨session, .request (.destroy resource)⟩, ()⟩]) session)
    (hdrain : ∀ ⦃history session⦄ registry, I history session →
      I history { session with registry }) : Upholds I (teardown : Step H E Unit) :=
  .session_bind fun session =>
    .bind (.modifySession fun _ _ hI => hdrain session.registry.drain.2 hI) fun _ =>
      .destroyAll hdestroy _

/-- A file is torn down after it was read, unless the run breaks off. -/
theorem readAndTearDown {text : Text}
    (hread : Upholds I (readFile context text : Step H LocatedFault Unit))
    (hteardown : Upholds I (Step.teardown : Step H LocatedFault Unit)) :
    Upholds I (readAndTearDown context text : Step H LocatedFault Unit) := by
  refine .bind (.tryCatch hread fun fault => ?_) fun _ => hteardown
  exact .ite (.refuse fault) (.bind hteardown fun _ => .refuse fault)

/-- What holds when a run starts holds of all that has happened when it ends. -/
theorem of_runs {text : Text} {events : List (Event H)} {result : RunResult}
    (hread : Upholds I (Step.readAndTearDown context text : Step H LocatedFault Unit))
    (hsteady : IsSteady I) (hstart : I [] (RunState.start context).session)
    (hrun : (runFile H context text).Runs events result) : ∃ session, I events session := by
  obtain ⟨reading, r, t, hreading, hends⟩ := runs_runFile_iff.mp hrun
  -- The run logs that it starts, and at last what it has counted.
  have hlog {history session} (entry : LogEntry) (hI : I history session) :
      I (history ++ [⟨⟨session, .request (.log entry)⟩, ()⟩]) session :=
    hsteady.quiet (.request (.log entry)) () rfl hI
  have hread := hread hreading (hlog context.begins hstart)
  obtain ⟨fault, -, -, rfl⟩ | ⟨-, -, rfl⟩ := hends
  · exact ⟨t.session, hread⟩
  · exact ⟨t.session, hlog _ hread⟩

end Step.Upholds

end ShaderConformance
