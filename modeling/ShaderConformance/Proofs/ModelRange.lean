import ShaderConformance.Proofs.Frames
import ShaderConformance.Proofs.Variants

/-!
# The range of models

Unless tests are skipped, the range of models of a run is not empty and lies inside the
range of the runner.  Requirements can only narrow it, and tests are skipped where
nothing is left.

## Main definitions

- `Capabilities.Covers`: a range that is not empty and lies inside that of a runner
- `Scope.IsSound`: tests are skipped, or the range of models is covered
- `SoundSoFar`: the scope is and was sound

## Main statements

- `covers_of_evaluate`: the range of requirements that are met
- `SoundSoFar.isInvariant`: requirements keep the scope sound, and nothing else changes it
- `Reached.isSound`: the range of models between the lines of a file
-/

namespace ShaderConformance

/-- A range of models is not empty and lies inside that of a runner. -/
structure Capabilities.Covers (caps : Capabilities) (lowest highest : ShaderModel) : Prop where
  lowest_ge : caps.minimumModel ≤ lowest
  nonempty : lowest ≤ highest
  highest_le : highest ≤ caps.maximumModel

/-- Tests do what the mode of the run says or are skipped, and there is a model for those that
    are not skipped. -/
structure Scope.IsSound (context : RunContext) (scope : Scope) : Prop where
  action : scope.action = context.mode.action ∨ scope.action = .skip
  covered : scope.action ≠ .skip → context.caps.Covers scope.minimumModel scope.maximumModel

/-- Nothing is claimed of the range while tests are skipped. -/
theorem Scope.IsSound.of_skip {context : RunContext} {scope : Scope}
    (h : scope.action = .skip) : scope.IsSound context :=
  ⟨.inr h, fun hskip => absurd h hskip⟩

/-! ## Requirements -/

section Requirements

variable {caps : Capabilities} {block : RequireBlock} {highest : ShaderModel}

/-- Requirements do not go below what is supported. -/
theorem le_evaluate_minimumModel (caps : Capabilities) (block : RequireBlock) :
    caps.minimumModel ≤ (block.evaluate caps).minimumModel := by
  unfold RequireBlock.evaluate
  cases block.minimumModel with
  | none => exact Nat.le_refl _
  | some m => exact ShaderModel.le_max_right m _

/-- Requirements do not go above what is supported. -/
theorem evaluate_maximumModel_le (h : (block.evaluate caps).maximumModel = some highest) :
    highest ≤ caps.maximumModel := by
  unfold RequireBlock.evaluate at h
  cases hbelow : block.belowModel with
  | none =>
    simp only [hbelow, Option.some.injEq] at h
    rw [← h]
    exact Nat.le_refl _
  | some below =>
    simp only [hbelow, Option.map_eq_some_iff] at h
    obtain ⟨m, -, rfl⟩ := h
    exact ShaderModel.min_le_right m _

/-- Requirements that are met leave some models. -/
theorem exists_highest_of_skipReason? {r : Requirements} (h : r.skipReason? = none) :
    ∃ highest, r.maximumModel = some highest ∧ r.minimumModel ≤ highest := by
  cases hmax : r.maximumModel with
  | none => simp [Requirements.skipReason?, hmax] at h
  | some highest =>
    refine ⟨highest, rfl, ?_⟩
    by_cases hle : r.minimumModel ≤ highest
    · exact hle
    · simp [Requirements.skipReason?, hmax, hle] at h

/-- Requirements that are met leave a range that is supported. -/
theorem covers_of_evaluate (h : (block.evaluate caps).skipReason? = none) :
    caps.Covers (block.evaluate caps).minimumModel
      ((block.evaluate caps).maximumModel.getD .oldest) := by
  obtain ⟨highest, hmax, hle⟩ := exists_highest_of_skipReason? h
  rw [hmax]
  exact ⟨le_evaluate_minimumModel caps block, hle, evaluate_maximumModel_le hmax⟩

end Requirements

variable {H : Type} {context : RunContext}

/-- Whether something is logged at an event. -/
def Event.isLog : Event H → Bool
  | ⟨⟨_, .request (.log _)⟩, _⟩ => true
  | _ => false

/-- The scope is sound, and so was that of the session whenever something was done but logged.
    Why a block makes tests be skipped is logged before they are. -/
structure SoundSoFar (context : RunContext) (history : List (Event H)) (s : Session H) : Prop where
  now : s.scope.IsSound context
  before : ∀ event ∈ history, event.isLog = false → event.question.session.scope.IsSound context

namespace SoundSoFar

/-- What is compiled for depends on the scope only. -/
theorem isScoped (context : RunContext) : IsScoped (H := H) (SoundSoFar context) where
  event history session deed answer _ h := by
    refine ⟨h.now, fun event hevent => ?_⟩
    obtain hevent | hevent := List.mem_append.mp hevent
    · exact h.before event hevent
    · rw [List.mem_singleton.mp hevent]
      exact fun _ => h.now
  congr _ _ _ hscope h := ⟨hscope ▸ h.now, h.before⟩

/-- The scope after a require block does not depend on the one before it. -/
theorem finishRequire_upholds {E : Type} (block : RequireBlock) :
    Step.Upholds (SoundSoFar context) (Step.finishRequire context block : Step H E Unit) := by
  intro s events r s' hrun history h
  rw [Step.finishRequire, Step.runs_modifySession_bind_iff] at hrun
  cases hreason : (block.evaluate context.caps).skipReason? with
  | some reason =>
    rw [hreason] at hrun
    -- The block is not met: the run skips from here, and its range says nothing.
    obtain ⟨_, rest, rfl, hskip⟩ := Step.runs_ask_bind_iff.mp hrun
    obtain ⟨rfl, -, rfl⟩ := Step.runs_modifySession_iff.mp hskip
    refine ⟨.of_skip rfl, fun event hevent hlog => ?_⟩
    obtain hevent | hevent := List.mem_append.mp hevent
    · exact h.before event hevent hlog
    · rw [List.mem_singleton.mp hevent] at hlog
      cases hlog
  | none =>
    rw [hreason] at hrun
    -- The block is met: the new range is covered by the capabilities it was checked against.
    obtain ⟨rfl, -, rfl⟩ := Step.runs_modifySession_iff.mp hrun
    rw [List.append_nil]
    exact ⟨⟨.inl rfl, fun _ => covers_of_evaluate hreason⟩, h.before⟩

/-- Compiles stay within the range of the requirements. -/
theorem isInvariant (context : RunContext) : IsInvariant (H := H) context (SoundSoFar context) :=
  (isScoped context).isInvariant finishRequire_upholds fun _ =>
    .modifySession fun _ _ h => ⟨.of_skip rfl, h.before⟩

/-- At the start the range is all that is supported. -/
theorem start (hcaps : context.caps.minimumModel ≤ context.caps.maximumModel) :
    SoundSoFar context [] (RunState.start (H := H) context).session :=
  ⟨⟨.inl rfl, fun _ => ⟨Nat.le_refl _, hcaps, Nat.le_refl _⟩⟩,
    fun _ hevent => absurd hevent List.not_mem_nil⟩

end SoundSoFar

/-- Between the lines of a file, there is a model for the tests unless they are skipped. -/
theorem Reached.isSound {current : Step.OpenBlock} {s : RunState H}
    (hcaps : context.caps.minimumModel ≤ context.caps.maximumModel)
    (h : Reached context current s) : s.session.scope.IsSound context := by
  obtain ⟨lines, events, hrun⟩ := h
  exact ((SoundSoFar.isInvariant context).readOpen_upholds _ _ _ hrun (.start hcaps)).now

end ShaderConformance
