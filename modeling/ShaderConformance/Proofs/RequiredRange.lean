import ShaderConformance.Proofs.ModelRange
import ShaderConformance.Proofs.RequireLines

/-!
# What requirements resolve to

The lines of a require block make demands.  Of the bounds and of the options the last line
counts, and of the features and formats every one.  At the end of the block tests are skipped
if no model is allowed or something is missing; otherwise the range of models is exactly what
is allowed.

## Main definitions

- `Allowed`: a model that the demands and the runner allow
- `LacksSome`: something that the runner lacks is demanded
- `Session.Resolves`: what demands decide
- `Session.IsRanged`: the range of models is covered by the runner unless tests are skipped

## Main statements

- `RequireBlock.collects_foldl_taking`: which demands count
- `finishBlock_resolves`: what the end of a require block decides
- `requirements_resolve`: and at any time the runner covers the range unless tests are skipped
-/

namespace ShaderConformance

/-! ## The demands of a block -/

namespace RequireBlock

/-- Where a demand adds to what a block says, every one of them counts. -/
theorem foldl_taking_all {T : Type} {part : RequireBlock → List T} {pick : Demand → Option T}
    (h : ∀ b demand, part (b.taking demand) = part b ++ (pick demand).toList) (b : RequireBlock)
    (demands : List Demand) :
    part (demands.foldl taking b) = part b ++ demands.filterMap pick := by
  induction demands generalizing b with
  | nil => exact (List.append_nil _).symm
  | cons demand more ih =>
    rw [List.foldl_cons, ih, h, List.append_assoc]
    cases hpick : pick demand <;> simp [hpick]

end RequireBlock

/-- The last demand of a kind. -/
def lastDemand? {T : Type} (pick : Demand → Option T) (demands : List Demand) : Option T :=
  (demands.filterMap pick).getLast?

/-- Demands and the runner allow a model. -/
structure Allowed (caps : Capabilities) (demands : List Demand) (m : ShaderModel) : Prop where
  lower : ∀ x, lastDemand? Demand.lowerBound? demands = some x → x ≤ m
  upper : ∀ y, lastDemand? Demand.upperBound? demands = some y → m < y
  oldest_le : caps.minimumModel ≤ m
  le_newest : m ≤ caps.maximumModel

/-- Something that the runner lacks is demanded. -/
def LacksSome (caps : Capabilities) (demands : List Demand) : Prop :=
  ∃ demand ∈ demands, demand.IsMissing caps

namespace RequireBlock

variable {b : RequireBlock} {demands : List Demand} {caps : Capabilities}

/-- What a block has collected that took in some demands. -/
structure Collects (demands : List Demand) (b : RequireBlock) : Prop where
  lower : b.minimumModel = lastDemand? Demand.lowerBound? demands
  upper : b.belowModel = lastDemand? Demand.upperBound? demands
  options : b.options = (lastDemand? Demand.options? demands).getD .none
  features : b.features = demands.filterMap Demand.feature?
  uavLoads : b.uavLoads = demands.filterMap Demand.uavLoad?

/-- Demands that are taken one after the other are collected. -/
theorem collects_foldl_taking (demands : List Demand) :
    Collects demands (demands.foldl taking fresh) := by
  have hlast {T : Type} (part : RequireBlock → Option T) (pick : Demand → Option T)
      (hpart : ∀ b demand, part (b.taking demand) = (pick demand).or (part b)) :
      part (demands.foldl taking fresh) = (lastDemand? pick demands).or (part fresh) :=
    foldl_last_or part pick hpart fresh _
  have hall {T : Type} (part : RequireBlock → List T) (pick : Demand → Option T)
      (hpart : ∀ b demand, part (b.taking demand) = part b ++ (pick demand).toList) :
      part (demands.foldl taking fresh) = part fresh ++ demands.filterMap pick :=
    foldl_taking_all hpart fresh _
  refine ⟨?_, ?_, ?_, ?_, ?_⟩
  · exact (hlast minimumModel _ fun b demand => by cases demand <;> rfl).trans (Option.or_none ..)
  · exact (hlast belowModel _ fun b demand => by cases demand <;> rfl).trans (Option.or_none ..)
  · -- Before any line of options there are none.
    exact foldl_last _ Demand.options? (fun b demand => by cases demand <;> rfl) fresh _
  · exact hall features _ fun b demand => by cases demand <;> simp [taking, Demand.feature?]
  · exact hall uavLoads _ fun b demand => by cases demand <;> simp [taking, Demand.uavLoad?]

end RequireBlock

/-! ## Bounds -/

namespace ShaderModel

/-- The models below a bound are those up to the one before it. -/
theorem decide_lt_eq (m y : ShaderModel) :
    decide (m < y) = y.older?.any fun a => decide (m ≤ a) := by
  cases y <;> cases m <;> rfl

/-- The newer of two models is not newer than a third one if neither is. -/
theorem max_le_iff {a b m : ShaderModel} : max a b ≤ m ↔ a ≤ m ∧ b ≤ m :=
  ⟨fun h => ⟨Nat.le_trans (le_max_left a b) h, Nat.le_trans (le_max_right a b) h⟩,
    fun h => max_le h.1 h.2⟩

/-- The older of two models is not older than a third one if neither is. -/
theorem le_min_iff {a b m : ShaderModel} : m ≤ min a b ↔ m ≤ a ∧ m ≤ b := by
  change (m ≤ if a ≤ b then a else b) ↔ _
  simp only [le_def]
  split <;> omega

end ShaderModel

namespace RequireBlock

variable {b : RequireBlock} {caps : Capabilities} {m : ShaderModel}

/-- The lowest model is the newest of those that are asked for. -/
theorem evaluate_minimumModel_le_iff :
    (b.evaluate caps).minimumModel ≤ m ↔
      (∀ x, b.minimumModel = some x → x ≤ m) ∧ caps.minimumModel ≤ m := by
  unfold evaluate
  cases b.minimumModel with
  | none => simp
  | some x => simp [ShaderModel.max_le_iff]

/-- The highest model is below all bounds, and no newer than what is supported. -/
theorem le_evaluate_maximumModel_iff :
    (∃ highest, (b.evaluate caps).maximumModel = some highest ∧ m ≤ highest) ↔
      (∀ y, b.belowModel = some y → m < y) ∧ m ≤ caps.maximumModel := by
  unfold evaluate
  cases b.belowModel with
  | none => simp
  | some y =>
    have hlt := ShaderModel.decide_lt_eq m y
    cases holder : y.older? with
    | none =>
      have hnot : ¬ m < y := by simpa [holder] using hlt
      simp [holder, hnot]
    | some a =>
      rw [holder, Option.any_some, decide_eq_decide] at hlt
      simp [holder, hlt, ShaderModel.le_min_iff]

end RequireBlock

/-! ## Resolving a block -/

/-- Tests are run if the range is not empty and nothing is unmet. -/
theorem Requirements.skipReason?_eq_none_iff {r : Requirements} :
    r.skipReason? = none ↔
      (∃ highest, r.maximumModel = some highest ∧ r.minimumModel ≤ highest) ∧ r.unmet = [] := by
  unfold skipReason?
  cases r.maximumModel with
  | none => simp
  | some highest =>
    by_cases hle : r.minimumModel ≤ highest <;> simp [hle]

namespace RequireBlock.Collects

variable {b : RequireBlock} {demands : List Demand} {caps : Capabilities}

/-- The range of the requirements is what the demands and the runner allow. -/
theorem allowed_iff (h : b.Collects demands) {m : ShaderModel} :
    Allowed caps demands m ↔
      (b.evaluate caps).minimumModel ≤ m ∧
        ∃ highest, (b.evaluate caps).maximumModel = some highest ∧ m ≤ highest := by
  rw [evaluate_minimumModel_le_iff, le_evaluate_maximumModel_iff, h.lower, h.upper]
  constructor
  · rintro ⟨hlower, hupper, holdest, hnewest⟩
    exact ⟨⟨hlower, holdest⟩, hupper, hnewest⟩
  · rintro ⟨⟨hlower, holdest⟩, hupper, hnewest⟩
    exact ⟨hlower, hupper, holdest, hnewest⟩

/-- Nothing is unmet if no demand asks for what is lacking. -/
theorem unmet_eq_nil_iff (h : b.Collects demands) :
    (b.evaluate caps).unmet = [] ↔ ¬ LacksSome caps demands := by
  have hmissing : ∀ demand : Demand, demand.IsMissing caps ↔
      (∃ f, demand.feature? = some f ∧ caps.has f = false) ∨
        ∃ f, demand.uavLoad? = some f ∧ caps.uavLoad f = false := by
    intro demand
    cases demand <;> simp [Demand.IsMissing, Demand.feature?, Demand.uavLoad?]
  simp only [evaluate, List.append_eq_nil_iff, List.map_eq_nil_iff, List.filter_eq_nil_iff,
    h.features, h.uavLoads, List.mem_filterMap, LacksSome, hmissing]
  grind

/-- Tests are skipped if no model is allowed or something is missing. -/
theorem skipReason?_eq_none_iff (h : b.Collects demands) :
    (b.evaluate caps).skipReason? = none ↔
      (∃ m, Allowed caps demands m) ∧ ¬ LacksSome caps demands := by
  rw [Requirements.skipReason?_eq_none_iff, h.unmet_eq_nil_iff]
  refine and_congr_left fun _ => ⟨?_, ?_⟩
  · rintro ⟨highest, hmax, hle⟩
    exact ⟨highest, h.allowed_iff.mpr ⟨hle, highest, hmax, Nat.le_refl _⟩⟩
  · rintro ⟨m, hm⟩
    obtain ⟨hmin, highest, hmax, hle⟩ := h.allowed_iff.mp hm
    exact ⟨highest, hmax, Nat.le_trans hmin hle⟩

end RequireBlock.Collects

/-! ## Sessions -/

section Sessions

variable {H E : Type} {context : RunContext}

/-- Unless tests are skipped, the range of models is covered by the runner. -/
def Session.IsRanged (s : Session H) (caps : Capabilities) : Prop :=
  s.action ≠ .skip → caps.Covers s.minimumModel s.maximumModel

/-- What the demands of a require block decide at its end. -/
structure Session.Resolves (s : Session H) (caps : Capabilities) (demands : List Demand) :
    Prop where
  skipped : s.action = .skip ↔ (¬ ∃ m, Allowed caps demands m) ∨ LacksSome caps demands
  range : s.action ≠ .skip →
    ∀ m, s.minimumModel ≤ m ∧ m ≤ s.maximumModel ↔ Allowed caps demands m
  options : s.action ≠ .skip → s.options = (lastDemand? Demand.options? demands).getD .none

namespace Step

variable {s s' : RunState H} {events : List (Event H)} {block : RequireBlock}

/-- The end of a block decides everything as its requirements say. -/
theorem finishRequire_decides {r : Except E Unit}
    (h : (finishRequire context block : Step H E Unit).Runs s events r s') :
    r = .ok () ∧
      s'.session.minimumModel = (block.evaluate context.caps).minimumModel ∧
      s'.session.maximumModel = (block.evaluate context.caps).maximumModel.getD .oldest ∧
      s'.session.options = block.options ∧
      (s'.session.action = .skip ↔ (block.evaluate context.caps).skipReason? ≠ none) := by
  rw [finishRequire, runs_modifySession_bind_iff] at h
  cases hreason : (block.evaluate context.caps).skipReason? with
  | some reason =>
    rw [hreason] at h
    obtain ⟨_, rest, rfl, hskip⟩ := runs_ask_bind_iff.mp h
    obtain ⟨-, hr, rfl⟩ := runs_modifySession_iff.mp hskip
    exact ⟨hr, rfl, rfl, rfl, fun _ => Option.some_ne_none reason, fun _ => rfl⟩
  | none =>
    rw [hreason] at h
    obtain ⟨-, hr, rfl⟩ := runs_modifySession_iff.mp h
    refine ⟨hr, rfl, rfl, rfl, fun hskip => ?_, fun h => absurd rfl h⟩
    -- No mode skips tests by itself.
    cases hmode : context.mode <;> simp [RunMode.action, hmode] at hskip

/-- The end of a block resolves the demands that it has collected. -/
theorem finishBlock_resolves {demands : List Demand} {line : Nat} {r : Except Fault Unit}
    (hcollects : block.Collects demands)
    (h : (finishBlock context (.require block) line : Step H Fault Unit).Runs s events r s') :
    r = .ok () ∧ s'.session.Resolves context.caps demands := by
  rw [finishBlock] at h
  obtain ⟨rest, rfl, hrest⟩ := runs_note_bind_iff.mp h
  obtain ⟨hr, hmin, hmax, hoptions, hskip⟩ := finishRequire_decides hrest
  refine ⟨hr, ?_, fun hrun m => ?_, fun _ => hoptions.trans hcollects.options⟩
  · rw [hskip, ne_eq, hcollects.skipReason?_eq_none_iff, Classical.not_and_iff_not_or_not,
      Classical.not_not]
  · have hmet : (block.evaluate context.caps).skipReason? = none :=
      Classical.byContradiction fun hunmet => hrun (hskip.mpr hunmet)
    obtain ⟨highest, hhighest, -⟩ := exists_highest_of_skipReason? hmet
    rw [hcollects.allowed_iff, hmin, hmax, hhighest]
    simp

end Step

/-- The lines of a require block are accepted if each of them makes a demand.  At the end of the
    block tests are skipped exactly if no model is allowed or something is missing; otherwise the
    range of models is what is allowed and the options are the last ones.  So whatever lines are
    read, between them, at the end and whenever a run does anything but log, the range is covered
    by the runner or tests are skipped. -/
theorem requirements_resolve (hcaps : context.caps.minimumModel ≤ context.caps.maximumModel) :
    (∀ lines, (RequireBlock.fresh.takeLines lines).isSome ↔
      ∃ demands, List.Forall₂ Demand.IsOf demands lines) ∧
    (∀ {lines demands block line} {s s' : RunState H} {events r},
      List.Forall₂ Demand.IsOf demands lines → RequireBlock.fresh.takeLines lines = some block →
      (Step.finishBlock context (.require block) line).Runs s events r s' →
        r = .ok () ∧ s'.session.Resolves context.caps demands) ∧
    (∀ {lines} {s : RunState H} {events r},
      (Step.readOpen context ⟨.none, 0⟩ 1 lines).Runs (.start context) events r s →
        s.session.IsRanged context.caps) ∧
    (∀ {text} {s : RunState H} {events r},
      (Step.readAndTearDown context text).Runs (.start context) events r s →
        s.session.IsRanged context.caps) ∧
    ∀ {text} {events : List (Event H)} {result}, (runFile H context text).Runs events result →
      ∀ event ∈ events, event.isLog = false → event.question.session.IsRanged context.caps := by
  have hsound := SoundSoFar.isInvariant (H := H) context
  have hscoped := SoundSoFar.isScoped (H := H) context
  refine ⟨fun lines => ?_, fun hdemands htaken hrun => ?_, fun hrun => ?_, fun hrun => ?_,
    fun hrun event hevent hlog => ?_⟩
  · simp only [Option.isSome_iff_exists, RequireBlock.takeLines_eq_some_iff]
    grind
  · obtain rfl := Option.some.inj (htaken.symm.trans (RequireBlock.takeLines_of_isOf hdemands))
    exact Step.finishBlock_resolves (RequireBlock.collects_foldl_taking _) hrun
  · exact (hsound.readOpen_upholds _ _ _ hrun (.start hcaps)).now.covered
  · exact (hscoped.readAndTearDown_upholds hsound _ hrun (.start hcaps)).now.covered
  · obtain ⟨_, hall⟩ := hscoped.of_runs hsound (.start hcaps) hrun
    exact (hall.before event hevent hlog).covered

/-- Bounds of which the first is replaced by the last, with blanks of any width. -/
def narrowingLines : List Text :=
  ["shader model >= 3.0".toList, "\tshader  model < 6 ".toList, "shader model >= 4.0".toList]

/-- What these lines demand. -/
def narrowingDemands : List Demand := [.atLeast .sm3_0, .below .sm6_0, .atLeast .sm4_0]

/-- The block with these lines. -/
def narrowingBlock : RequireBlock := (RequireBlock.fresh.takeLines narrowingLines).getD .fresh

/-- A run on a runner with all models. -/
def narrowingContext : RunContext := ⟨"narrowing", .run, .plain⟩

/-- The end of the block. -/
def narrowing : Step Nat Fault Unit := Step.finishBlock narrowingContext (.require narrowingBlock) 1

/-- The lines make these demands. -/
theorem isOf_narrowing : List.Forall₂ Demand.IsOf narrowingDemands narrowingLines := by
  have hversion {m : ShaderModel} {s : Text} (h : ShaderModel.parse s = .ok m) : m.IsVersion s :=
    ShaderModel.parse_eq_ok_iff.mp h
  refine .cons ?_ (.cons ?_ (.cons ?_ .nil))
  · exact (Demand.Says.atLeast (hversion (show ShaderModel.parse "3.0".toList = _ by decide))).isOf
      (by decide)
  · exact (Demand.Says.below (hversion (show ShaderModel.parse "6".toList = _ by decide))
      (by decide)).isOf (by decide)
  · exact (Demand.Says.atLeast (hversion (show ShaderModel.parse "4.0".toList = _ by decide))).isOf
      (by decide)

/-- The range goes from the last lower bound to the model before the upper one. -/
theorem requirements_resolve_narrowing :
    let s := (Step.journalEnd .willing none narrowing (.start narrowingContext)).2.session
    s.Resolves .plain narrowingDemands ∧ s.action = .run ∧ s.minimumModel = .sm4_0 ∧
      s.maximumModel = .sm5_1 := by
  have hlines : RequireBlock.fresh.takeLines narrowingLines = some narrowingBlock := by
    rw [narrowingBlock, RequireBlock.takeLines_of_isOf isOf_narrowing, Option.getD_some]
  have hrun := Step.runs_journalTrace .willing none narrowing (.start narrowingContext)
  obtain ⟨-, hresolve, -⟩ := @requirements_resolve Nat narrowingContext (by decide)
  have hresolves := hresolve isOf_narrowing hlines hrun
  exact ⟨hresolves.2, by decide +kernel, by decide +kernel, by decide +kernel⟩

end Sessions

end ShaderConformance
