import Mathlib.Data.List.Forall2
import ShaderConformance.Proofs.Reading
import ShaderConformance.Proofs.SourceFormats

/-!
# Runs that differ in line numbers

What a line of a file does depends on its text and on the state, but not on its number: that
only appears in notes, in log entries that begin with it, and with faults.  This file follows the
number through the steps of a run.

## Main definitions

- `Placed`: texts that begin with the file and a line, and go on alike
- `Event.Renumbered`: events that differ in line numbers only
- `Event.handsOver`: the ends of source blocks, and what is handed over there
- `Step.Matches`: all that one step may do, another one may do with related events
- `Step.Alike`: steps that differ in line numbers only, and hand nothing over

## Main statements

- `Step.takeLine_alike`, `Step.openAt_alike`: lines and headers at different places
- `Step.finishBlock_renumbered`: ends of blocks at different places
- `Step.readLine_renumbered`: any line of a file, with blocks that were opened at different places
- `Step.handsOver_of_matches`: nothing is handed over but at the end of source blocks
-/

namespace ShaderConformance

/-! ## Events -/

/-- A line of a file, as texts name it. -/
def linePlace (file : String) (line : ℕ) : String := s!"{file}:{line}"

/-- Two texts that begin with a file and related lines of it, and go on alike. -/
inductive Placed (file : String) (ρ : ℕ → ℕ → Prop) : String → String → Prop
  | intro {n n' : ℕ} (h : ρ n n') (more : String) :
      Placed file ρ (linePlace file n ++ more) (linePlace file n' ++ more)

namespace Placed

variable {file : String} {ρ : ℕ → ℕ → Prop}

/-- A place with the one number and the same place with the other. -/
theorem line {n n' : ℕ} (h : ρ n n') : Placed file ρ (linePlace file n) (linePlace file n') := by
  simpa only [String.append_empty] using intro h ""

/-- The same text behind both keeps them alike. -/
theorem append {text text' : String} (h : Placed file ρ text text') (more : String) :
    Placed file ρ (text ++ more) (text' ++ more) := by
  obtain ⟨h, front⟩ := h
  simpa only [String.append_assoc] using intro h (front ++ more)

end Placed

/-- Two turns that differ in the line only. -/
inductive Turn.Renumbered (ρ : ℕ → ℕ → Prop) : Turn → Turn → Prop
  | close (block : Block) {n n' : ℕ} (h : ρ n n') : Renumbered ρ (.close block n) (.close block n')
  | read (test : TestLine) {n n' : ℕ} (h : ρ n n') : Renumbered ρ (.read n test) (.read n' test)
  | execute (test : TestLine) {n n' : ℕ} (h : ρ n n') :
      Renumbered ρ (.execute n test) (.execute n' test)

/-- Two notes that differ in the line only. -/
inductive Note.Renumbered (ρ : ℕ → ℕ → Prop) : Note → Note → Prop
  | turn {t t' : Turn} (h : t.Renumbered ρ t') : Renumbered ρ (.turn t) (.turn t')
  | store (type : ShaderType) (source : ShaderSource) :
      Renumbered ρ (.store type source) (.store type source)
  | check (ok todo bug : Bool) (message : String) {n n' : ℕ} (h : ρ n n') :
      Renumbered ρ (.check ⟨ok, todo, bug, n, message⟩) (.check ⟨ok, todo, bug, n', message⟩)
  | skip (reason : String) {n n' : ℕ} (h : ρ n n') : Renumbered ρ (.skip n reason) (.skip n' reason)

/-- What a block has collected, if it collects source. -/
def Block.source? : Block → Option Text
  | shader _ text | preproc _ text => some text
  | _ => Option.none

/-- Whether a block collects source. -/
def Block.isSource (block : Block) : Bool := block.source?.isSome

/-- Two faults that differ in the line only. -/
structure LocatedFault.Renumbered (ρ : ℕ → ℕ → Prop) (fault fault' : LocatedFault) : Prop where
  line : ρ fault.line fault'.line
  fault : fault.fault = fault'.fault

namespace Event

variable {H : Type}

/-- Two events in the same session that differ in line numbers only. -/
inductive Renumbered (file : String) (ρ : ℕ → ℕ → Prop) : Event H → Event H → Prop
  | request (s : Session H) (q : Request H) (a : q.Answer) :
      Renumbered file ρ ⟨⟨s, .request q⟩, a⟩ ⟨⟨s, .request q⟩, a⟩
  | log (s : Session H) (level : LogLevel) (topic : LogTopic) {text text' : String}
      (h : Placed file ρ text text') :
      Renumbered file ρ ⟨⟨s, .request (.log ⟨level, topic, text⟩)⟩, ()⟩
        ⟨⟨s, .request (.log ⟨level, topic, text'⟩)⟩, ()⟩
  | note (s : Session H) {n n' : Note} (h : n.Renumbered ρ n') :
      Renumbered file ρ ⟨⟨s, .note n⟩, ()⟩ ⟨⟨s, .note n'⟩, ()⟩

/-- Whether a source block ends at an event, or a source is stored or preprocessed.  The vertex
    shaders of quads do not count. -/
def handsOver (event : Event H) : Bool :=
  match event.question.deed with
  | .note (.turn (.close block _)) => block.isSource
  | .note (.store type source) => ¬ (type = .vertex ∧ source ∈ quadShaders)
  | .request (.preprocess _) => true
  | _ => false

/-- Two events that differ in line numbers only, and hand nothing over. -/
structure Within (file : String) (ρ : ℕ → ℕ → Prop) (event event' : Event H) : Prop where
  renumbered : event.Renumbered file ρ event'
  handsOver : event.handsOver = false

end Event

namespace Step

variable {H E E' T T' U U' : Type}

/-! ## Steps that match -/

/-- Two results: related values, or related faults. -/
inductive Agree (R : E → E' → Prop) (V : T → T' → Prop) : Except E T → Except E' T' → Prop
  | ok {a : T} {a' : T'} (h : V a a') : Agree R V (.ok a) (.ok a')
  | error {e : E} {e' : E'} (h : R e e') : Agree R V (.error e) (.error e')

/-- Whatever one step does, the other one does from the same state to the same state, with related
    events and results. -/
def Matches (C : Event H → Event H → Prop) (R : E → E' → Prop) (V : T → T' → Prop)
    (x : Step H E T) (y : Step H E' T') : Prop :=
  ∀ ⦃s events r t⦄, x.Runs s events r t →
    ∃ events' r', y.Runs s events' r' t ∧ List.Forall₂ C events events' ∧ Agree R V r r'

namespace Matches

variable {C C' : Event H → Event H → Prop} {R : E → E' → Prop} {V : T → T' → Prop}
  {W : U → U' → Prop} {x : Step H E T} {y : Step H E' T'} {f : T → Step H E U}
  {g : T' → Step H E' U'}

theorem mono (hC : ∀ {event event'}, C event event' → C' event event') (h : Matches C R V x y) :
    Matches C' R V x y := by
  intro s events r t hrun
  obtain ⟨events', r', hrun', hevents, hr⟩ := h hrun
  exact ⟨events', r', hrun', hevents.imp fun _ _ => hC, hr⟩

/-- A value matches a related one. -/
theorem pure {a : T} {a' : T'} (h : V a a') :
    Matches C R V (pure a : Step H E T) (pure a' : Step H E' T') := by
  intro s events r t hrun
  obtain ⟨rfl, rfl, rfl⟩ := runs_pure_iff.mp hrun
  exact ⟨[], _, runs_pure_iff.mpr ⟨rfl, rfl, rfl⟩, .nil, .ok h⟩

/-- A fault matches a related one. -/
theorem refuse {e : E} {e' : E'} (h : R e e') :
    Matches C R V (refuse e : Step H E T) (refuse e' : Step H E' T') := by
  intro s events r t hrun
  obtain ⟨rfl, rfl, rfl⟩ := runs_refuse_iff.mp hrun
  exact ⟨[], _, runs_refuse_iff.mpr ⟨rfl, rfl, rfl⟩, .nil, .error h⟩

/-- Steps one after the other match if each does. -/
theorem bind (h : Matches C R V x y) (hf : ∀ a a', V a a' → Matches C R W (f a) (g a')) :
    Matches C R W (x >>= f) (y >>= g) := by
  intro s events r t hrun
  obtain ⟨before, a, u, after, hx, hrest, rfl⟩ | ⟨e, hx, rfl⟩ := runs_bind_iff.mp hrun
  · obtain ⟨before', _, hy, hbefore, ha | _⟩ := h hx
    obtain ⟨after', r', hrest', hafter, hr⟩ := hf _ _ ha hrest
    have hrun' := runs_bind_iff.mpr (.inl ⟨before', _, u, after', hy, hrest', rfl⟩)
    exact ⟨before' ++ after', r', hrun', List.rel_append hbefore hafter, hr⟩
  · obtain ⟨events', _, hy, hevents, _ | he⟩ := h hx
    exact ⟨events', _, runs_bind_iff.mpr (.inr ⟨_, hy, rfl⟩), hevents, .error he⟩

/-- Related faults are named by related ones. -/
theorem mapFault {D D' : Type} {R' : D → D' → Prop} {name : E → D} {name' : E' → D'}
    (hname : ∀ e e', R e e' → R' (name e) (name' e')) (h : Matches C R V x y) :
    Matches C R' V (mapFault name x) (mapFault name' y) := by
  intro s events r t hrun
  obtain ⟨r, hx, rfl⟩ := runs_mapFault_iff.mp hrun
  obtain ⟨events', r', hy, hevents, hr⟩ := h hx
  refine ⟨events', _, runs_mapFault_iff.mpr ⟨r', hy, rfl⟩, hevents, ?_⟩
  cases hr with
  | ok ha => exact .ok ha
  | error he => exact .error (hname _ _ he)

/-- A fault is handled on both sides or on none. -/
theorem tryCatch {handler : E → Step H E T} {handler' : E' → Step H E' T'}
    (h : Matches C R V x y) (hhandler : ∀ e e', R e e' → Matches C R V (handler e) (handler' e')) :
    Matches C R V (tryCatch x handler) (tryCatch y handler') := by
  intro s events r t hrun
  obtain ⟨a, hx, rfl⟩ | ⟨before, e, u, after, hx, hrest, rfl⟩ := runs_tryCatch_iff.mp hrun
  · obtain ⟨events', _, hy, hevents, ha | _⟩ := h hx
    exact ⟨events', _, runs_tryCatch_iff.mpr (.inl ⟨_, hy, rfl⟩), hevents, .ok ha⟩
  · obtain ⟨before', _, hy, hbefore, _ | he⟩ := h hx
    obtain ⟨after', r', hrest', hafter, hr⟩ := hhandler _ _ he hrest
    have hrun' := runs_tryCatch_iff.mpr (.inr ⟨before', _, u, after', hy, hrest', rfl⟩)
    exact ⟨before' ++ after', r', hrun', List.rel_append hbefore hafter, hr⟩

/-- Both sides look at the same session. -/
theorem session_bind {f : Session H → Step H E T} {g : Session H → Step H E' T'}
    (h : ∀ s, Matches C R V (f s) (g s)) : Matches C R V (session >>= f) (session >>= g) :=
  fun s _ _ _ hrun => h s.session hrun

/-- Both sides change the state in the same way. -/
theorem modify_bind {change : RunState H → RunState H} {x : PUnit → Step H E T}
    {y : PUnit → Step H E' T'} (h : Matches C R V (x ⟨⟩) (y ⟨⟩)) :
    Matches C R V (modify change >>= x) (modify change >>= y) :=
  fun _ _ _ _ hrun => h hrun

theorem ite {p : Prop} [Decidable p] {x' : Step H E T} {y' : Step H E' T'}
    (h : Matches C R V x y) (h' : Matches C R V x' y') :
    Matches C R V (if p then x else x') (if p then y else y') := by
  split
  · exact h
  · exact h'

/-- A change of the session matches itself. -/
theorem modifySession (change : Session H → Session H) :
    Matches C R (· = ·) (modifySession change) (modifySession change) := by
  intro s events r t hrun
  obtain ⟨rfl, rfl, rfl⟩ := runs_modifySession_iff.mp hrun
  exact ⟨[], _, runs_modifySession_iff.mpr ⟨rfl, rfl, rfl⟩, .nil, .ok rfl⟩

/-- A request matches itself if its events do. -/
theorem ask {q : Request H} (hq : ∀ (s : RunState H) a, C (s.asked q a) (s.asked q a)) :
    Matches C R (· = ·) (ask q) (ask q) := by
  intro s events r t hrun
  obtain ⟨a, rfl, rfl, rfl⟩ := runs_ask_iff.mp hrun
  exact ⟨_, _, runs_ask_iff.mpr ⟨a, rfl, rfl, rfl⟩, .cons (hq t a) .nil, .ok rfl⟩

/-- Notes match if their events do. -/
theorem note {m m' : Note} (hm : ∀ s : RunState H, C (s.noted m) (s.noted m')) :
    Matches C R (· = ·) (note m) (note m') := by
  intro s events r t hrun
  obtain ⟨rfl, rfl, rfl⟩ := runs_note_iff.mp hrun
  exact ⟨_, _, runs_note_iff.mpr ⟨rfl, rfl, rfl⟩, .cons (hm t) .nil, .ok rfl⟩

/-- Log entries match if their events do. -/
theorem ask_log {entry entry' : LogEntry}
    (hentry : ∀ s : RunState H, C (s.asked (.log entry) ()) (s.asked (.log entry') ())) :
    Matches C R (· = ·) (Step.ask (.log entry)) (Step.ask (.log entry')) := by
  intro s events r t hrun
  obtain ⟨_, rfl, rfl, rfl⟩ := runs_ask_iff.mp hrun
  exact ⟨_, _, runs_ask_iff.mpr ⟨(), rfl, rfl, rfl⟩, .cons (hentry t) .nil, .ok rfl⟩

end Matches

/-! ## Steps that are alike -/

/-- One step does what the other one does, but for line numbers, and hands nothing over. -/
def Alike (context : RunContext) (ρ : ℕ → ℕ → Prop) (x y : Step H E T) : Prop :=
  Matches (Event.Within context.file ρ) (· = ·) (· = ·) x y

section Alike

variable {context : RunContext} {ρ : ℕ → ℕ → Prop} {n n' : ℕ}

/-- Two open blocks that differ in the line of the header only. -/
structure OpenBlock.Renumbered (ρ : ℕ → ℕ → Prop) (current current' : OpenBlock) : Prop where
  block : current.block = current'.block
  line : ρ current.line current'.line

/-- Where events match but for their lines, nothing is handed over. -/
theorem handsOver_of_matches {R : E → E' → Prop} {V : T → T' → Prop} {x : Step H E T}
    {y : Step H E' T'} (h : Matches (Event.Within context.file ρ) R V x y) {s t : RunState H}
    {events : List (Event H)} {r : Except E T} (hrun : x.Runs s events r t) :
    ∀ event ∈ events, event.handsOver = false := by
  obtain ⟨events', _, -, hevents, -⟩ := h hrun
  intro event hevent
  obtain ⟨i, hi, rfl⟩ := List.getElem_of_mem hevent
  have hi' : i < events'.length := hevents.length_eq ▸ hi
  exact (hevents.get hi hi').handsOver

namespace Alike

/-- A value has no line. -/
theorem pure (value : T) : Alike context ρ (pure value : Step H E T) (pure value) :=
  Matches.pure rfl

theorem refuse (fault : E) : Alike context ρ (refuse fault : Step H E T) (refuse fault) :=
  Matches.refuse rfl

theorem ofExcept (result : Except E T) :
    Alike context ρ (ofExcept result : Step H E T) (ofExcept result) := by
  cases result with
  | ok value => exact pure value
  | error fault => exact refuse fault

/-- Steps one after the other are alike if each is. -/
theorem bind {x y : Step H E T} {f g : T → Step H E U} (h : Alike context ρ x y)
    (hf : ∀ a, Alike context ρ (f a) (g a)) : Alike context ρ (x >>= f) (y >>= g) :=
  Matches.bind h fun a _ ha => ha ▸ hf a

/-- The session has no line. -/
theorem session_bind {f g : Session H → Step H E T} (h : ∀ s, Alike context ρ (f s) (g s)) :
    Alike context ρ (session >>= f) (session >>= g) :=
  Matches.session_bind h

theorem modify_bind {f : RunState H → RunState H} {x y : PUnit → Step H E T}
    (h : Alike context ρ (x ⟨⟩) (y ⟨⟩)) : Alike context ρ (modify f >>= x) (modify f >>= y) :=
  Matches.modify_bind h

theorem ite {p : Prop} [Decidable p] {x x' y y' : Step H E T} (h : Alike context ρ x y)
    (h' : Alike context ρ x' y') :
    Alike context ρ (if p then x else x') (if p then y else y') :=
  Matches.ite h h'

/-- A change of the session has no line. -/
theorem modifySession (f : Session H → Session H) :
    Alike context ρ (modifySession f : Step H E Unit) (modifySession f) :=
  Matches.modifySession f

/-- A request that hands nothing over. -/
theorem ask {q : Request H} (hq : ∀ (s : RunState H) a, (s.asked q a).handsOver = false) :
    Alike context ρ (ask q : Step H E q.Answer) (ask q) :=
  Matches.ask fun s a => ⟨.request s.session q a, hq s a⟩

/-- A log entry that begins with a line. -/
theorem ask_log (level : LogLevel) (topic : LogTopic) {text text' : String}
    (h : Placed context.file ρ text text') :
    Alike context ρ (Step.ask (.log ⟨level, topic, text⟩) : Step H E Unit)
      (Step.ask (.log ⟨level, topic, text'⟩)) :=
  Matches.ask_log fun s => ⟨.log s.session level topic h, rfl⟩

/-- Notes are alike if they differ in their lines only. -/
theorem note {m m' : Note} (h : m.Renumbered ρ m')
    (hm : ∀ s : RunState H, (s.noted m).handsOver = false) :
    Alike context ρ (note m : Step H E Unit) (note m') :=
  Matches.note fun s => ⟨.note s.session h, hm s⟩

/-- Steps that are alike, blamed on related lines. -/
theorem atLine {x y : Step H Fault T} (h : Alike context ρ x y) (hn : ρ n n') :
    Matches (Event.Within context.file ρ) (LocatedFault.Renumbered ρ) (· = ·) (atLine n x)
      (atLine n' y) :=
  Matches.mapFault (fun _ _ hfault => ⟨hn, hfault⟩) h

end Alike

/-! ## Reports -/

/-- Texts that differ in their lines only are logged alike. -/
theorem log_alike (level : LogLevel) {text text' : String} (h : Placed context.file ρ text text') :
    Alike context ρ (log level text : Step H E Unit) (log level text') :=
  .ask_log level .run h

/-- What is logged without a line. -/
theorem log_same (level : LogLevel) (text : String) :
    Alike context ρ (log level text : Step H E Unit) (log level text) :=
  .ask fun _ _ => rfl

/-- A check is reported with its line. -/
theorem check_alike (ok todo bug : Bool) (message : String) (h : ρ n n') :
    Alike context ρ (check context ⟨ok, todo, bug, n, message⟩ : Step H E Unit)
      (check context ⟨ok, todo, bug, n', message⟩) := by
  refine .bind (.note (.check ok todo bug message h) fun _ => rfl) fun _ => .modify_bind ?_
  -- The verdict is the same wherever the line stands.
  have hverdict : Check.verdict? ⟨ok, todo, bug, n, message⟩ =
      Check.verdict? ⟨ok, todo, bug, n', message⟩ := rfl
  rw [Check.entry?, Check.entry?, hverdict]
  cases Check.verdict? ⟨ok, todo, bug, n', message⟩ with
  | none => exact .pure _
  | some verdict =>
    exact .ask_log verdict.1 .report ((((Placed.line h).append _).append _).append _ |>.append _)

theorem skip_alike (reason : String) (h : ρ n n') :
    Alike context ρ (skip context n reason : Step H E Unit) (skip context n' reason) :=
  .bind (.note (.skip reason h) fun _ => rfl) fun _ => .modify_bind <|
    .ask_log .info .report (((Placed.line h).append _).append _)

/-! ## Shaders and requirements -/

/-- A compile has no line. -/
theorem compile_same (source : ShaderSource) (type : ShaderType) (model : ShaderModel) :
    Alike context ρ (compile source type model : Step H E _) (compile source type model) :=
  .session_bind fun _ => .ask fun _ _ => rfl

/-- What is reported of a compile has a line. -/
theorem checkCompile_alike (header : ShaderHeader) (model : ShaderModel)
    (result : Except CompileError CompiledShader) (h : ρ n n') :
    Alike context ρ (checkCompile context header model result n : Step H E Unit)
      (checkCompile context header model result n') := by
  cases result with
  | ok compiled => exact check_alike _ _ _ _ h
  | error error =>
    have hplace : Placed context.file ρ (linePlace context.file n) (linePlace context.file n') :=
      .line h
    have hplaced := hplace.append ": " |>.append (toString header.type) |>.append " at "
      |>.append (toString model) |>.append ": " |>.append error.message
    exact .bind (log_alike .debug hplaced) fun _ => check_alike _ _ _ _ h

theorem compileVariants_alike (header : ShaderHeader) (source : ShaderSource) (h : ρ n n')
    (models : List ShaderModel) :
    Alike context ρ (compileVariants context header source n models : Step H E Unit)
      (compileVariants context header source n' models) := by
  induction models with
  | nil => exact .pure _
  | cons model models ih =>
    exact .bind (compile_same _ _ _) fun result =>
      .bind (checkCompile_alike header model result h) fun _ => ih

/-- A shader block is reported with its line. -/
theorem compileBlock_alike (header : ShaderHeader) (source : ShaderSource) (h : ρ n n') :
    Alike context ρ (compileBlock context header source n : Step H E Unit)
      (compileBlock context header source n') :=
  .ite (.session_bind fun _ => compileVariants_alike header source h _) (skip_alike _ h)

theorem runBlock_alike (header : ShaderHeader) (source : ShaderSource) (h : ρ n n') :
    Alike context ρ (runBlock context header source n : Step H E Unit)
      (runBlock context header source n') := by
  refine .ite (.session_bind fun session => ?_) ?_
  · exact .bind (compile_same _ _ _) fun result =>
      .bind (checkCompile_alike header _ result h) fun _ => .modifySession _
  · exact .bind (log_alike .debug ((Placed.line h).append _ |>.append _)) fun _ =>
      .modifySession _

/-- To compile a stage again has no line. -/
theorem refreshStage_same (type : ShaderType) :
    Alike context ρ (refreshStage context type : Step H E Unit) (refreshStage context type) := by
  refine .session_bind fun session => .ite ?_ (.pure _)
  cases (session.stage type).source with
  | none => exact .pure _
  | some source =>
    refine .bind (compile_same _ _ _) fun result => ?_
    cases result with
    | ok compiled => exact .modifySession _
    | error error => exact .bind (log_same _ _) fun _ => .modifySession _

theorem refreshStages_same (types : List ShaderType) :
    Alike context ρ (refreshStages context types : Step H E Unit)
      (refreshStages context types) := by
  induction types with
  | nil => exact .pure _
  | cons type types ih => exact .bind (refreshStage_same type) fun _ => ih

theorem finishRequire_same (block : RequireBlock) :
    Alike context ρ (finishRequire context block : Step H E Unit)
      (finishRequire context block) := by
  refine .bind (.modifySession _) fun _ => ?_
  cases (block.evaluate context.caps).skipReason? with
  | some reason => exact .bind (log_same _ _) fun _ => .modifySession _
  | none => exact .modifySession _

/-! ## Resources -/

/-- A resource is looked up without a line. -/
theorem lookup_same (ref : ResourceRef) :
    Alike context ρ (lookup ref : Step H Fault (Resource H)) (lookup ref) :=
  .session_bind fun session => by
    cases session.registry.get? ref with
    | some resource => exact .pure _
    | none => exact .refuse _

/-- A resource is registered without a line. -/
theorem register_same (desc : ResourceDesc) (handle : H) :
    Alike context ρ (register desc handle : Step H Fault Unit) (register desc handle) := by
  refine .bind (.modifySession _) fun _ => .session_bind fun session =>
    .bind (.modifySession _) fun _ => .bind (.ofExcept _) fun replaced => ?_
  cases replaced with
  | some old => exact .ask fun _ _ => rfl
  | none => exact .pure _

/-- A failed creation is reported with its line. -/
theorem creationFailed_alike (desc : ResourceDesc) (error : BackendError) (h : ρ n n') :
    Alike context ρ (creationFailed context desc n error : Step H Fault Unit)
      (creationFailed context desc n' error) := by
  refine .bind (.modifySession _) fun _ => ?_
  cases error with
  | unsupported reason => exact skip_alike _ h
  | failed reason => exact check_alike _ _ _ _ h

theorem createResource_alike (desc : ResourceDesc) (data : List UInt8) (h : ρ n n') :
    Alike context ρ (createResource context desc data n : Step H Fault Bool)
      (createResource context desc data n') := by
  have hplaced : Placed context.file ρ (creationText context desc n)
      (creationText context desc n') :=
    (Placed.line h).append _ |>.append _ |>.append _ |>.append _
  refine .bind (log_alike .debug hplaced) fun _ => .bind (.ask fun _ _ => rfl) fun created => ?_
  cases created with
  | ok handle => exact .bind (register_same desc handle) fun _ => .pure _
  | error error => exact .bind (creationFailed_alike desc error h) fun _ => .pure _

theorem finishResource_alike (block : ResourceBlock) (h : ρ n n') :
    Alike context ρ (finishResource context block n : Step H Fault Unit)
      (finishResource context block n') :=
  .bind (.ofExcept _) fun desc => .session_bind fun _ =>
    .ite (.bind (createResource_alike desc block.data h) fun _ => .pure _) (.pure _)

/-- A sampler has no line. -/
theorem finishSampler_same (sampler : SamplerDesc) :
    Alike context ρ (finishSampler sampler : Step H Fault Unit) (finishSampler sampler) :=
  .session_bind fun _ => .bind (.modifySession _) fun _ => .ofExcept _

/-! ## Test lines -/

section TestLines

variable {todo bug : Bool}

/-- An expected success is checked at its line. -/
theorem expectSuccess_alike (ok : Bool) (message : String) (h : ρ n n') :
    Alike context ρ (expectSuccess context ⟨n, todo, bug⟩ ok message : Step H E Unit)
      (expectSuccess context ⟨n', todo, bug⟩ ok message) :=
  .ite (.pure _) (check_alike _ _ _ _ h)

theorem rendered_alike (ok : Bool) (message : String) (h : ρ n n') :
    Alike context ρ (rendered context ⟨n, todo, bug⟩ ok message : Step H E Unit)
      (rendered context ⟨n', todo, bug⟩ ok message) :=
  .bind (.modifySession _) fun _ => expectSuccess_alike ok message h

theorem clear_alike (ref : ResourceRef) (value : ClearValue) (message : String) (h : ρ n n') :
    Alike context ρ (clear context ⟨n, todo, bug⟩ ref value message : Step H Fault Unit)
      (clear context ⟨n', todo, bug⟩ ref value message) :=
  .bind (lookup_same ref) fun _ => .bind (.ask fun _ _ => rfl) fun ok =>
    expectSuccess_alike ok message h

theorem copy_alike (source target : ResourceRef) (h : ρ n n') :
    Alike context ρ (copy context ⟨n, todo, bug⟩ source target : Step H Fault Unit)
      (copy context ⟨n', todo, bug⟩ source target) := by
  refine .bind (lookup_same source) fun read => .bind (lookup_same target) fun written => ?_
  cases copyMismatch? read.desc written.desc with
  | some mismatch => exact .refuse _
  | none => exact .bind (.ask fun _ _ => rfl) fun ok => expectSuccess_alike ok _ h

theorem compareProbe_alike (contents : Readback) (rect : ProbeRect) (value : ProbeValue)
    (steps : UInt32) (h : ρ n n') :
    Alike context ρ
      (compareProbe context ⟨n, todo, bug⟩ contents rect value steps : Step H Fault Unit)
      (compareProbe context ⟨n', todo, bug⟩ contents rect value steps) := by
  unfold compareProbe
  split
  · exact .refuse _
  · exact check_alike _ _ _ _ h
  · exact check_alike _ _ _ _ h

/-- A probe that is read back is checked at its line. -/
theorem readProbe_alike (ref : ResourceRef) (rect : ProbeRect) (value : ProbeValue)
    (steps : UInt32) (h : ρ n n') :
    Alike context ρ (readProbe context ⟨n, todo, bug⟩ ref rect value steps : Step H Fault Unit)
      (readProbe context ⟨n', todo, bug⟩ ref rect value steps) := by
  refine .bind (lookup_same ref) fun resource => .bind (.ofExcept _) fun (subresource, area) =>
    .bind (.ask fun _ _ => rfl) fun answer => ?_
  cases answer with
  | error e => exact .refuse _
  | ok contents =>
    cases contents with
    | none => exact check_alike _ _ _ _ h
    | some contents =>
      exact .bind (.ofExcept _) fun _ => compareProbe_alike contents area value steps h

theorem probe_alike (ref : ResourceRef) (rect : ProbeRect) (value : ProbeValue)
    (steps : UInt32) (h : ρ n n') :
    Alike context ρ (probe context ⟨n, todo, bug⟩ ref rect value steps : Step H Fault Unit)
      (probe context ⟨n', todo, bug⟩ ref rect value steps) :=
  .session_bind fun _ =>
    .ite (log_alike .trace ((Placed.line h).append _)) (readProbe_alike ref rect value steps h)

/-- A render target is created at the line of its draw. -/
theorem ensureTarget_alike (h : ρ n n') :
    Alike context ρ (ensureTarget context n : Step H Fault Bool) (ensureTarget context n') :=
  .session_bind fun session => by
    cases session.registry.get? quadTarget.ref with
    | some target => exact .pure _
    | none => exact createResource_alike _ _ h

/-- The shaders of a quad are reported at the line of its draw. -/
theorem compileQuad_alike (h : ρ n n') :
    Alike context ρ (compileQuad context ⟨n, todo, bug⟩ : Step H E Bool)
      (compileQuad context ⟨n', todo, bug⟩) := by
  refine .session_bind fun session => .bind (compile_same _ _ _) fun result =>
    .bind (.note (.store _ _) fun s => ?_) fun _ => .bind (.modifySession _) fun _ => ?_
  · -- The source that is stored is the run's own.
    have hquad := quadShader_mem_quadShaders session
    simp [RunState.noted, Event.handsOver, hquad]
  · cases result with
    | ok compiled => exact .pure _
    | error error => exact .bind (check_alike _ _ _ _ h) fun _ => .pure _

/-- All that a quad needs is reported at its line. -/
theorem drawQuad_alike (h : ρ n n') :
    Alike context ρ (drawQuad context ⟨n, todo, bug⟩ : Step H Fault Unit)
      (drawQuad context ⟨n', todo, bug⟩) := by
  refine .bind (ensureTarget_alike h) fun _ => .ite ?_ (.pure _)
  refine .bind (.modifySession _) fun _ => .bind (compileQuad_alike h) fun _ => .ite ?_ (.pure _)
  refine .bind (createResource_alike _ _ h) fun _ => .ite ?_ (.pure _)
  exact .session_bind fun _ => .bind (.ask fun _ _ => rfl) fun ok => rendered_alike ok _ h

/-- Commands at different places. -/
theorem execute_alike (command : Command) (h : ρ n n') :
    Alike context ρ (execute context ⟨n, todo, bug⟩ command : Step H Fault Unit)
      (execute context ⟨n', todo, bug⟩ command) := by
  cases command with
  | dispatch | draw =>
    exact .session_bind fun _ => .bind (.ask fun _ _ => rfl) fun ok => rendered_alike ok _ h
  | clearTarget | clearDepth => exact clear_alike _ _ _ h
  | drawQuad => exact drawQuad_alike h
  | copy source target => exact copy_alike source target h
  | probe target rect value steps => exact probe_alike target rect value steps h
  | uniform | viewport | depthFunc | depthBounds | sampleMask | alphaTest | shadeMode | clipPlane
  | pointSize | pointSprite | fog | fogColour =>
    simp only [execute, modifyFixed]
    exact .modifySession _

/-- The command of a line is reported with that line. -/
theorem runCommand_alike (test : TestLine) (h : ρ n n') :
    Alike context ρ (runCommand context test n : Step H Fault Unit)
      (runCommand context test n') := by
  refine .bind (.note (.turn (.read test h)) fun _ => rfl) fun _ =>
    .bind (refreshStages_same _) fun _ => .session_bind fun session => .ite ?_ ?_
  · exact log_alike .trace ((Placed.line h).append _)
  · exact .bind (.note (.turn (.execute test h)) fun _ => rfl) fun _ =>
      execute_alike test.command h

/-- What qualifiers are read in has no line. -/
theorem qualifierContext_same :
    Alike context ρ (qualifierContext context : Step H E QualifierContext)
      (qualifierContext context) :=
  .session_bind fun _ => .pure _

/-- A line of a test is reported with its number. -/
theorem runTestLine_alike (text : Text) (h : ρ n n') :
    Alike context ρ (runTestLine context text n : Step H Fault Unit)
      (runTestLine context text n') := by
  refine .session_bind fun _ => .ite ?_ (.pure _)
  refine .bind qualifierContext_same fun _ => .bind (.ofExcept _) fun test => ?_
  cases test with
  | none => exact .pure _
  | some test => exact runCommand_alike test h

end TestLines

/-! ## Lines and headers -/

/-- What a block takes has no line. -/
theorem taken_same {T : Type} (make : T → Block) (result : T × Option Fault) :
    Alike context ρ (taken make result : Step H Fault Block) (taken make result) := by
  obtain ⟨value, fault⟩ := result
  cases fault with
  | none => exact .pure _
  | some fault => exact .refuse _

/-- A line at different places. -/
theorem takeLine_alike (block : Block) (text : Text) (h : ρ n n') :
    Alike context ρ (takeLine context block text n : Step H Fault Block)
      (takeLine context block text n') := by
  cases block with
  | none => exact .refuse _
  | inputLayout =>
    exact .bind (.ofExcept _) fun _ => .bind (.modifySession _) fun _ => .pure _
  | require | resource | sampler => exact taken_same _ _
  | test => exact .bind (runTestLine_alike text h) fun _ => .pure _
  | shader | preproc => exact .pure _

/-- A header opens the same block wherever it stands. -/
theorem openBlock_same (text : Text) :
    Alike context ρ (openBlock context text : Step H Fault Block) (openBlock context text) := by
  refine .bind qualifierContext_same fun _ => .bind (.ofExcept _) fun header => ?_
  cases header with
  | inputLayout => exact .bind (.modifySession _) fun _ => .pure _
  | require | test | preproc | shader | resource | sampler => exact .pure _

/-- A block remembers the line of its header, and a fault its own line. -/
theorem openAt_alike (text : Text) (h : ρ n n') :
    Matches (Event.Within context.file ρ) (LocatedFault.Renumbered ρ) (OpenBlock.Renumbered ρ)
      (openAt context text n : Step H LocatedFault OpenBlock) (openAt context text n') := by
  refine .bind ((openBlock_same text).atLine h) fun block _ hblock => ?_
  subst hblock
  refine .bind (.ask_log fun s => ⟨.log s.session .debug .run ?_, rfl⟩) fun _ _ _ => .pure ⟨rfl, h⟩
  exact (Placed.line h).append _ |>.append _ |>.append _

/-- A line of the body leaves blocks that differ in the line of their header only. -/
theorem bodyLine_alike {current current' : OpenBlock} (hcurrent : current.Renumbered ρ current')
    (text : Text) (h : ρ n n') :
    Matches (Event.Within context.file ρ) (LocatedFault.Renumbered ρ) (OpenBlock.Renumbered ρ)
      (bodyLine context current text n : Step H LocatedFault OpenBlock)
      (bodyLine context current' text n') := by
  rw [bodyLine, bodyLine, ← hcurrent.block]
  cases current.block.collect? text with
  | some block => exact .pure ⟨rfl, hcurrent.line⟩
  | none =>
    refine .ite (.pure hcurrent) (.bind (.ask_log fun s => ?_) fun _ _ _ => ?_)
    · exact ⟨.log s.session .trace .run ((Placed.line h).append _ |>.append _), rfl⟩
    · exact .bind ((takeLine_alike current.block text h).atLine h) fun _ _ hblock =>
        .pure ⟨hblock, hcurrent.line⟩

/-! ## Ends of blocks -/

/-- The end of a test is reported with its line. -/
theorem finishTest_alike (h : ρ n n') :
    Alike context ρ (finishTest context n : Step H E Unit) (finishTest context n') :=
  .session_bind fun _ => .ite (skip_alike _ h) (.pure _)

/-- The end of a block that is no source, at different places. -/
theorem finishBlock_alike {block : Block} (hblock : block.isSource = false) (h : ρ n n') :
    Alike context ρ (finishBlock context block n : Step H Fault Unit)
      (finishBlock context block n') := by
  refine .bind (.note (.turn (.close block h)) fun _ => hblock) fun _ => ?_
  cases block with
  | none | inputLayout => exact .pure _
  | test => exact finishTest_alike h
  | require block => exact finishRequire_same block
  | resource block => exact finishResource_alike block h
  | sampler sampler => exact finishSampler_same sampler
  | shader | preproc => cases hblock

/-- What follows once the source of a shader block is stored. -/
theorem compileStored_alike (header : ShaderHeader) (source : ShaderSource) (h : ρ n n') :
    Alike context ρ
      (do
        modifySession fun s => s.setSource header.type source
        match (← session).action with
        | .skip => return
        | .compile => compileBlock context header source n
        | .run => runBlock context header source n : Step H E Unit)
      (do
        modifySession fun s => s.setSource header.type source
        match (← session).action with
        | .skip => return
        | .compile => compileBlock context header source n'
        | .run => runBlock context header source n') := by
  refine .bind (.modifySession _) fun _ => .session_bind fun session => ?_
  cases session.action with
  | skip => exact .pure _
  | compile => exact compileBlock_alike header source h
  | run => exact runBlock_alike header source h

/-- What follows once the source of a preprocessor block is preprocessed. -/
theorem checkPreproc_alike (result : Except CompileError Text) (refused : Bool) (h : ρ n n') :
    Alike context ρ
      (match preprocCheck result refused n with
        | .ok c => check context c
        | .error reason => skip context n reason : Step H E Unit)
      (match preprocCheck result refused n' with
        | .ok c => check context c
        | .error reason => skip context n' reason) := by
  unfold preprocCheck
  cases result with
  | ok output => cases refused <;> exact check_alike _ _ _ _ h
  | error error =>
    cases error with
    | notImplemented reason => exact skip_alike _ h
    | failed message => exact check_alike _ _ _ _ h

/-- The end of a block, at different places. -/
theorem finishBlock_renumbered (block : Block) (h : ρ n n') :
    Matches (Event.Renumbered context.file ρ) (· = ·) (· = ·)
      (finishBlock context block n : Step H Fault Unit) (finishBlock context block n') := by
  have hclose (s : RunState H) : Event.Renumbered context.file ρ
      (s.noted (.turn (.close block n))) (s.noted (.turn (.close block n'))) :=
    .note s.session (.turn (.close block h))
  cases block with
  | shader header text =>
    refine .bind (.note hclose) fun _ _ _ => .bind (.note fun s => ?_) fun _ _ _ => ?_
    · exact .note s.session (.store header.type ⟨text, header.format⟩)
    · exact (compileStored_alike header ⟨text, header.format⟩ h).mono (·.renumbered)
  | preproc refused text =>
    refine .bind (.note hclose) fun _ _ _ => .session_bind fun session =>
      .ite (.bind (.ask fun s a => ?_) fun result _ hresult => ?_) (.pure rfl)
    · exact .request s.session (.preprocess text) a
    · exact hresult ▸ (checkPreproc_alike result refused h).mono (·.renumbered)
  | none | inputLayout | test | require | resource | sampler =>
    exact (finishBlock_alike rfl h).mono (·.renumbered)

/-- An open block is ended with the line of its header. -/
theorem closeOpen_renumbered {current current' : OpenBlock}
    (hcurrent : current.Renumbered ρ current') :
    Matches (Event.Renumbered context.file ρ) (LocatedFault.Renumbered ρ) (· = ·)
      (closeOpen context current : Step H LocatedFault Unit) (closeOpen context current') := by
  rw [closeOpen, closeOpen, ← hcurrent.block]
  exact .mapFault (fun _ _ hfault => ⟨hcurrent.line, hfault⟩)
    (finishBlock_renumbered current.block hcurrent.line)

/-- A line of a file, at different places. -/
theorem readLine_renumbered {current current' : OpenBlock}
    (hcurrent : current.Renumbered ρ current') (text : Text) (h : ρ n n') :
    Matches (Event.Renumbered context.file ρ) (LocatedFault.Renumbered ρ) (OpenBlock.Renumbered ρ)
      (readLine context current text n : Step H LocatedFault OpenBlock)
      (readLine context current' text n') := by
  refine .ite ?_ ((bodyLine_alike hcurrent text h).mono (·.renumbered))
  rw [headerLine_eq, headerLine_eq]
  exact .bind (closeOpen_renumbered hcurrent) fun _ _ _ =>
    (openAt_alike text h).mono (·.renumbered)

/-! ## The end of a file -/

variable {R : E → E' → Prop}

/-- Resources are destroyed without a line. -/
theorem destroyAll_same (resources : List (Resource H)) :
    Matches (Event.Within context.file ρ) R (· = ·) (destroyAll resources)
      (destroyAll resources) := by
  induction resources with
  | nil => exact .pure rfl
  | cons resource more ih =>
    have hask : Matches (Event.Within context.file ρ) R (· = ·)
        (ask (.destroy resource) : Step H E _) (ask (.destroy resource)) :=
      .ask fun s a => ⟨.request s.session _ a, rfl⟩
    exact .bind hask fun _ _ _ => ih

theorem teardown_same :
    Matches (Event.Within context.file ρ) R (· = ·) (teardown : Step H E Unit) teardown :=
  .session_bind fun _ => .bind (.modifySession _) fun _ _ _ => destroyAll_same _

end Alike

end Step

end ShaderConformance
