import ShaderConformance.Proofs.Reading
import ShaderConformance.Proofs.Reports

/-!
# Skipped tests

While tests are skipped, blocks are read but nothing is asked of the backend or the
compiler, and all that is counted is one skipped test for each test block.  Only the end of
a require block may change that.

## Main definitions

- `Skipped`: no calls, and one skipped test for each test block that ended
- `Step.Idles`: a step that leaves all of this alone, with one rule for each way to write it
- `endedBefore`: the blocks that end before the last one

## Main statements

- `finishBlock_skips`, `readLine_skips`: the end of a block, and a line
- `skipped_of_readLines`: some blocks up to the end of a require block or of the file
-/

namespace ShaderConformance

variable {H : Type} {s s' t : RunState H} {events events' : List (Event H)}

/-- Nothing is asked, and what is counted is a skipped test for each test block. -/
structure Skipped (s : RunState H) (events : List (Event H)) (s' : RunState H) : Prop where
  silent : calls events = []
  summary : s'.summary =
    { s.summary with skipped := s.summary.skipped + (closedBlocks events).countP Block.isTest }

/-- Nothing is asked or counted, no block ends, and the test action stays. -/
structure Idle (s : RunState H) (events : List (Event H)) (s' : RunState H) : Prop where
  silent : calls events = []
  closed : closedBlocks events = []
  summary : s'.summary = s.summary
  action : s'.session.action = s.session.action

/-- Tests are skipped, and go on to be unless a require block ends. -/
structure Skips (s : RunState H) (events : List (Event H)) (s' : RunState H) : Prop
    extends Skipped s events s' where
  action : (∀ block ∈ closedBlocks events, block.isRequire = false) → s'.session.action = .skip

namespace Skipped

theorem trans (h : Skipped s events t) (h' : Skipped t events' s') :
    Skipped s (events ++ events') s' where
  silent := calls_append_eq_nil h.silent h'.silent
  summary := by simp [h'.summary, h.summary, Nat.add_assoc]

end Skipped

namespace Idle

theorem refl (s : RunState H) : Idle s [] s := ⟨rfl, rfl, rfl, rfl⟩

theorem trans (h : Idle s events t) (h' : Idle t events' s') : Idle s (events ++ events') s' where
  silent := calls_append_eq_nil h.silent h'.silent
  closed := by rw [closedBlocks_append, h.closed, h'.closed, List.append_nil]
  summary := h'.summary.trans h.summary
  action := h'.action.trans h.action

/-- What is idle while tests are skipped is skipped. -/
theorem skips (h : Idle s events s') (haction : s.session.action = .skip) : Skips s events s' where
  silent := h.silent
  summary := by simp [h.closed, h.summary]
  action _ := h.action.trans haction

end Idle

/-- What is idle after a skip changes nothing of it. -/
theorem Skips.trans_idle (h : Skips s events t) (h' : Idle t events' s') :
    Skips s (events ++ events') s' where
  silent := calls_append_eq_nil h.silent h'.silent
  summary := by simp [h'.closed, h'.summary, h.summary]
  action hclosed := by
    rw [closedBlocks_append, h'.closed, List.append_nil] at hclosed
    exact h'.action.trans (h.action hclosed)

namespace Step

variable {E E' T U : Type} {context : RunContext} {current : OpenBlock} {line : Nat}

/-- Where tests have some action, a step asks, counts and ends nothing, and leaves the action. -/
def Idles (action : TestAction) (x : Step H E T) : Prop :=
  ∀ ⦃s events r s'⦄, s.session.action = action → x.Runs s events r s' → Idle s events s'

namespace Idles

variable {action : TestAction}

/-- A value is idle. -/
theorem pure (value : T) : Idles action (pure value : Step H E T) := by
  intro s events r s' _ h
  obtain ⟨rfl, -, rfl⟩ := runs_pure_iff.mp h
  exact .refl s'

theorem refuse (fault : E) : Idles action (refuse fault : Step H E T) := by
  intro s events r s' _ h
  obtain ⟨rfl, -, rfl⟩ := runs_refuse_iff.mp h
  exact .refl s'

theorem ofExcept (result : Except E T) : Idles action (ofExcept result : Step H E T) := by
  cases result with
  | ok value => exact pure value
  | error fault => exact refuse fault

/-- Idle steps one after the other are idle. -/
theorem bind {x : Step H E T} {f : T → Step H E U} (hx : Idles action x)
    (hf : ∀ a, Idles action (f a)) : Idles action (x >>= f) := by
  intro s events r s' haction h
  obtain ⟨before, a, t, after, hrun, hrest, rfl⟩ | ⟨_, hrun, -⟩ := runs_bind_iff.mp h
  · have hidle := hx haction hrun
    exact hidle.trans (hf a (hidle.action.trans haction) hrest)
  · exact hx haction hrun

/-- What follows may look at the session, where it finds the action. -/
theorem session_bind {f : Session H → Step H E T}
    (hf : ∀ session, session.action = action → Idles action (f session)) :
    Idles action (session >>= f) :=
  fun s _ _ _ haction h => hf s.session haction haction (runs_session_bind_iff.mp h)

/-- A change of the session that leaves the action as it is is idle. -/
theorem modifySession {f : Session H → Session H}
    (hf : ∀ session, (f session).action = session.action) :
    Idles action (modifySession f : Step H E Unit) := by
  intro s events r s' _ h
  obtain ⟨rfl, -, rfl⟩ := runs_modifySession_iff.mp h
  exact ⟨rfl, rfl, rfl, hf s.session⟩

/-- To log is idle. -/
theorem log (level : LogLevel) (text : String) : Idles action (log level text : Step H E Unit) := by
  intro s events r s' _ h
  obtain ⟨rfl, -, rfl⟩ := runs_log_iff.mp h
  exact ⟨rfl, rfl, rfl, rfl⟩

/-- To store a source is idle. -/
theorem store (type : ShaderType) (source : ShaderSource) :
    Idles action (note (.store type source) : Step H E Unit) := by
  intro s events r s' _ h
  rw [← bind_pure (note (.store type source) : Step H E Unit)] at h
  obtain ⟨rest, rfl, hpure⟩ := runs_note_bind_iff.mp h
  obtain ⟨rfl, -, rfl⟩ := runs_pure_iff.mp hpure
  exact ⟨rfl, rfl, rfl, rfl⟩

/-- To name a fault differently stays idle. -/
theorem mapFault {x : Step H E T} (f : E → E') (hx : Idles action x) :
    Idles action (mapFault f x) := by
  intro s events r s' haction h
  obtain ⟨_, hrun, -⟩ := runs_mapFault_iff.mp h
  exact hx haction hrun

theorem ite {p : Prop} [Decidable p] {x y : Step H E T} (hx : Idles action x)
    (hy : Idles action y) : Idles action (if p then x else y) := by
  split
  · exact hx
  · exact hy

end Idles

/-! ## The end of a block -/

/-- A sampler is idle. -/
theorem finishSampler_idles (sampler : SamplerDesc) :
    Idles .skip (finishSampler sampler : Step H Fault Unit) :=
  .session_bind fun _ _ => .bind (.modifySession fun _ => rfl) fun _ => .ofExcept _

/-- A resource is described, but not created. -/
theorem finishResource_idles (block : ResourceBlock) :
    Idles .skip (finishResource context block line : Step H Fault Unit) := by
  refine .bind (.ofExcept _) fun desc => .session_bind fun session haction => ?_
  rw [if_neg (by simp [haction])]
  exact .pure _

/-- A source is stored, but not compiled. -/
theorem finishShader_idles (header : ShaderHeader) (text : Text) :
    Idles .skip (finishShader context header text line : Step H E Unit) := by
  refine .bind (.store _ _) fun _ => .bind (.modifySession fun _ => rfl) fun _ =>
    .session_bind fun session haction => ?_
  rw [haction]
  exact .pure _

/-- While tests are skipped, no text is preprocessed. -/
theorem finishPreproc_idles (text : Text) (refused : Bool) :
    Idles .skip (finishPreproc context text refused line : Step H E Unit) := by
  refine .session_bind fun session haction => ?_
  rw [if_neg (by simp [haction])]
  exact .pure _

/-- The requirements of a block may change the test action, but nothing is asked or counted. -/
theorem finishRequire_untouched {block : RequireBlock} {r : Except E Unit}
    (h : (finishRequire context block : Step H E Unit).Runs s events r s') :
    calls events = [] ∧ closedBlocks events = [] ∧ s'.summary = s.summary := by
  rw [finishRequire, runs_modifySession_bind_iff] at h
  cases hreason : (block.evaluate context.caps).skipReason? with
  | some reason =>
    rw [hreason] at h
    obtain ⟨_, rest, rfl, hskip⟩ := runs_ask_bind_iff.mp h
    obtain ⟨rfl, -, rfl⟩ := runs_modifySession_iff.mp hskip
    exact ⟨rfl, rfl, rfl⟩
  | none =>
    rw [hreason] at h
    obtain ⟨rfl, -, rfl⟩ := runs_modifySession_iff.mp h
    exact ⟨rfl, rfl, rfl⟩

/-- A test block is skipped at its end. -/
theorem finishTest_skips {r : Except E Unit} (haction : s.session.action = .skip)
    (h : (finishTest context line : Step H E Unit).Runs s events r s') :
    calls events = [] ∧ closedBlocks events = [] ∧
      s' = { s with summary := s.summary.skip } := by
  rw [finishTest, runs_session_bind_iff, if_pos haction] at h
  obtain ⟨rfl, -, rfl⟩ := runs_skip_iff.mp h
  exact ⟨rfl, rfl, rfl⟩

/-- While tests are skipped, the end of a block counts a test block and no more. -/
theorem finishBlock_skips {block : Block} {r : Except Fault Unit}
    (haction : s.session.action = .skip)
    (h : (finishBlock context block line : Step H Fault Unit).Runs s events r s') :
    Skips s events s' := by
  unfold finishBlock at h
  obtain ⟨rest, rfl, hrest⟩ := runs_note_bind_iff.mp h
  -- Most blocks do nothing at their end.
  have hidle (htest : block.isTest = false) (hrest : Idle s rest s') :
      Skips s (s.noted (.turn (.close block line)) :: rest) s' :=
    ⟨⟨by simp [hrest.silent], by simp [hrest.closed, hrest.summary, htest]⟩,
      fun _ => hrest.action.trans haction⟩
  cases block with
  | none | inputLayout => exact hidle rfl (Idles.pure () haction hrest)
  | sampler sampler => exact hidle rfl (finishSampler_idles sampler haction hrest)
  | resource block => exact hidle rfl (finishResource_idles block haction hrest)
  | shader header text => exact hidle rfl (finishShader_idles header text haction hrest)
  | preproc refused text => exact hidle rfl (finishPreproc_idles text refused haction hrest)
  | require block =>
    obtain ⟨hcalls, hclosed, hsummary⟩ := finishRequire_untouched hrest
    exact ⟨⟨by simp [hcalls], by simp [hclosed, hsummary, Block.isTest]⟩,
      fun h => by simp [hclosed, Block.isRequire] at h⟩
  | test =>
    obtain ⟨hcalls, hclosed, rfl⟩ := finishTest_skips haction hrest
    exact ⟨⟨by simp [hcalls], by simp [hclosed, Block.isTest, Summary.skip]⟩, fun _ => haction⟩

/-! ## Lines -/

/-- What a block takes is idle. -/
theorem taken_idles (make : T → Block) (result : T × Option Fault) :
    Idles .skip (taken make result : Step H Fault Block) := by
  obtain ⟨value, fault⟩ := result
  cases fault with
  | none => exact .pure _
  | some fault => exact .refuse _

/-- No line of a test block is even read. -/
theorem runTestLine_idles (text : Text) :
    Idles .skip (runTestLine context text line : Step H Fault Unit) := by
  refine .session_bind fun session haction => ?_
  rw [if_neg (by simp [haction])]
  exact .pure _

/-- While tests are skipped, a line of a block is idle. -/
theorem takeLine_idles (block : Block) (text : Text) :
    Idles .skip (takeLine context block text line : Step H Fault Block) := by
  cases block with
  | none => exact .refuse _
  | inputLayout =>
    exact .bind (.ofExcept _) fun _ => .bind (.modifySession fun _ => rfl) fun _ => .pure _
  | require block => exact taken_idles _ _
  | resource block => exact taken_idles _ _
  | sampler sampler => exact taken_idles _ _
  | test => exact .bind (runTestLine_idles text) fun _ => .pure _
  | shader | preproc => exact .pure _

/-- A block may be opened after tests are no longer skipped. -/
theorem openBlock_idles (action : TestAction) (text : Text) :
    Idles action (openBlock context text : Step H Fault Block) := by
  refine .bind (.session_bind fun _ _ => .pure _) fun _ => .bind (.ofExcept _) fun header => ?_
  cases header with
  | inputLayout => exact .bind (.modifySession fun _ => rfl) fun _ => .pure _
  | require | test | preproc | shader | resource | sampler => exact .pure _

/-- A header that opens a block is idle. -/
theorem openAt_idles (action : TestAction) (text : Text) :
    Idles action (openAt context text line : Step H LocatedFault OpenBlock) :=
  .bind (.mapFault _ (openBlock_idles action text)) fun _ => .bind (.log _ _) fun _ => .pure _

/-- While tests are skipped, a line of the body is idle. -/
theorem bodyLine_idles (text : Text) :
    Idles .skip (bodyLine context current text line : Step H LocatedFault OpenBlock) := by
  unfold bodyLine
  cases current.block.collect? text with
  | some block => exact .pure _
  | none =>
    exact .ite (.pure _) (.bind (.log _ _) fun _ =>
      .bind (.mapFault _ (takeLine_idles current.block text)) fun _ => .pure _)

/-- While tests are skipped, a header skips the block before it. -/
theorem headerLine_skips {text : Text} {r : Except LocatedFault OpenBlock}
    (haction : s.session.action = .skip)
    (h : (headerLine context current text line : Step H LocatedFault OpenBlock).Runs s events
      r s') : Skips s events s' := by
  rw [headerLine_eq, closeOpen] at h
  obtain ⟨before, _, t, after, hclose, hopen, rfl⟩ | ⟨_, hclose, -⟩ := runs_bind_iff.mp h
  · obtain ⟨_, hfinish, -⟩ := runs_mapFault_iff.mp hclose
    exact (finishBlock_skips haction hfinish).trans_idle (openAt_idles _ text rfl hopen)
  · obtain ⟨_, hfinish, -⟩ := runs_mapFault_iff.mp hclose
    exact finishBlock_skips haction hfinish

/-- While tests are skipped, every line skips. -/
theorem readLine_skips {text : Text} {r : Except LocatedFault OpenBlock}
    (haction : s.session.action = .skip)
    (h : (readLine context current text line : Step H LocatedFault OpenBlock).Runs s events
      r s') : Skips s events s' := by
  rw [readLine] at h
  split at h
  · exact headerLine_skips haction h
  · exact (bodyLine_idles text haction h).skips haction

/-! ## Blocks up to the end of a require block -/

/-- The end of the lines ends a block, whatever happens to tests. -/
theorem closedBlocks_readLines {lines : List Text}
    (h : (readLines context current line lines : Step H LocatedFault Unit).Runs s events
      (.ok ()) s') : closedBlocks events ≠ [] := by
  rw [readLines_eq_readOpen] at h
  obtain ⟨before, last, t, after, -, hclose, rfl⟩ | ⟨_, -, hfault⟩ := runs_bind_iff.mp h
  · obtain ⟨_, hfinish, -⟩ := runs_mapFault_iff.mp hclose
    obtain ⟨rest, rfl, -⟩ := finishBlock_proceeds hfinish
    simp
  · cases hfault

/-- The blocks that end before the last one does, or before a fault. -/
def endedBefore (r : Except E Unit) (events : List (Event H)) : List Block :=
  match r with
  | .ok _ => (closedBlocks events).dropLast
  | .error _ => closedBlocks events

/-- While tests are skipped, blocks up to the end of a require block, or of the file, ask nothing
    of the backend and the compiler, and all that is counted is one skipped test for each test
    block that ends, whatever its lines are. -/
theorem skipped_of_readLines {lines : List Text} {r : Except LocatedFault Unit}
    (haction : s.session.action = .skip)
    (h : (readLines context current line lines : Step H LocatedFault Unit).Runs s events r s')
    (hstretch : ∀ block ∈ endedBefore r events, block.isRequire = false) :
    Skipped s events s' := by
  induction lines generalizing current line s events with
  | nil =>
    obtain ⟨_, hfinish, -⟩ := runs_mapFault_iff.mp h
    exact (finishBlock_skips haction hfinish).toSkipped
  | cons text more ih =>
    rw [readLines] at h
    obtain ⟨before, next, t, after, hline, hmore, rfl⟩ | ⟨_, hline, rfl⟩ := runs_bind_iff.mp h
    · have hskips := readLine_skips haction hline
      -- What ends with this line ends before the last block, since that one ends later.
      have hended : endedBefore r (before ++ after) =
          closedBlocks before ++ endedBefore r after := by
        cases r with
        | ok _ => simp [endedBefore, List.dropLast_append_of_ne_nil (closedBlocks_readLines hmore)]
        | error _ => simp [endedBefore]
      rw [hended] at hstretch
      have haction' : t.session.action = .skip :=
        hskips.action fun block hblock => hstretch block (List.mem_append_left _ hblock)
      exact hskips.toSkipped.trans
        (ih haction' hmore fun block hblock => hstretch block (List.mem_append_right _ hblock))
    · exact (readLine_skips haction hline).toSkipped

/-- What runs of files that need what nobody has are about. -/
def unmetContext : RunContext := ⟨"unmet", .run, .plain⟩

/-- The state in a test block after a requirement that is not met. -/
def unmetState : RunState Nat :=
  (journalEnd .willing none (readOpen unmetContext ⟨.none, 0⟩ 1
    (["[require]", "float64", "[test]"].map String.toList)) (.start unmetContext)).2

/-- The rest of that file, up to the end of another require block. -/
def unmetRest : Step Nat LocatedFault Unit :=
  readLines unmetContext ⟨.test, 3⟩ 4
    (["no command", "[rtv 0]", "[pixel shader]", "text", "[test]", "[require]"].map String.toList)

/-- A file whose first requirement is not met. -/
theorem skipped_unmet :
    unmetState.session.action = .skip ∧
      (closedBlocks (journalTrace .willing none unmetRest unmetState)).countP Block.isTest = 2 ∧
      Skipped unmetState (journalTrace .willing none unmetRest unmetState)
        (journalEnd .willing none unmetRest unmetState).2 := by
  have haction : unmetState.session.action = .skip := by decide +kernel
  refine ⟨haction, by decide +kernel, ?_⟩
  exact skipped_of_readLines haction (runs_journalTrace _ _ _ _) (by decide +kernel)

end Step

end ShaderConformance
