import ShaderConformance.Proofs.ReadableTexels
import ShaderConformance.Proofs.Tolerance

/-!
# What a probe records

A test line with a probe reads contents back once, or not at all.  Contents that the probe does not
fit are refused, and otherwise one check is recorded: it passes only if components were compared,
and it fails with the components of the first texel that does not match.

## Main definitions

- `readbacks`: what was read back in a run
- `Verdict`: what comes of contents that were read back for a probe
- `ProbeCourse`: what comes of a test line with a probe

## Main statements

- `Step.readProbe_course`: what comes of a probe that is executed
- `probeCourse_of_read`: what comes of a line that is read as a probe
-/

namespace ShaderConformance

variable {H : Type}

/-! ## Contents that were read back -/

namespace Event

/-- What was read back at an event, if something was to be. -/
def readback? : Event H → Option (Except ArithmeticError (Option Readback))
  | ⟨⟨_, .request (.readback _ _)⟩, contents⟩ => some contents
  | _ => none

end Event

/-- What was read back in a run. -/
def readbacks (events : List (Event H)) : List (Except ArithmeticError (Option Readback)) :=
  events.filterMap Event.readback?

section Readbacks

variable (s : RunState H) (event : Event H) (events events' : List (Event H))

/-- A readback is one with its answer. -/
@[simp] theorem readback?_asked_readback (resource : Resource H) (subresource : UInt32)
    (answer : Except ArithmeticError (Option Readback)) :
    (s.asked (.readback resource subresource) answer).readback? = some answer := rfl

/-- To log reads nothing back. -/
@[simp] theorem readback?_asked_log (entry : LogEntry) :
    (s.asked (.log entry) ()).readback? = none := rfl

/-- To compile reads nothing back. -/
@[simp] theorem readback?_asked_compile (source : ShaderSource) (type : ShaderType)
    (model : ShaderModel) (options : CompileOptions) (result : Except CompileError CompiledShader) :
    (s.asked (.compile source type model options) result).readback? = none := rfl

/-- A note reads nothing back. -/
@[simp] theorem readback?_noted (n : Note) : (s.noted n).readback? = none := rfl

/-- Without events nothing is read back. -/
@[simp] theorem readbacks_nil : readbacks ([] : List (Event H)) = [] := rfl

/-- The first event reads back first. -/
@[simp] theorem readbacks_cons :
    readbacks (event :: events) = event.readback?.toList ++ readbacks events := by
  cases h : event.readback? <;> simp [readbacks, h]

/-- What is read back first comes first. -/
@[simp] theorem readbacks_append :
    readbacks (events ++ events') = readbacks events ++ readbacks events' :=
  List.filterMap_append ..

/-- Nothing is read back where entries are logged. -/
@[simp] theorem readbacks_entries (entries : List LogEntry) :
    readbacks (entries.map fun entry => s.asked (.log entry) ()) = [] := by
  induction entries with
  | nil => simp
  | cons entry entries ih => simp [ih]

/-- Nothing is checked where entries are logged. -/
@[simp] theorem checks_entries (entries : List LogEntry) :
    checks (entries.map fun entry => s.asked (.log entry) ()) = [] := by
  induction entries with
  | nil => simp
  | cons entry entries ih => simp [ih]

end Readbacks

/-! ## Verdicts -/

/-- What comes of contents that were read back for a probe: they are refused, or every texel
    matches, or a mismatch is reported, which says what the texel is decoded into.  The comparison
    breaks off at a texel beyond the address space, which contents that are laid out do not have. -/
inductive Verdict (contents : Readback) (area : ProbeRect) (value : ProbeValue) (steps : UInt32) :
    Except Fault Unit → List Check → Prop
  | refused {fault : Fault} (hcheck : Step.checkProbe contents area value = .error fault) :
      Verdict contents area value steps (.error fault) []
  | passed {c : Check} (hcheck : Step.checkProbe contents area value = .ok ()) (hok : c.ok = true)
      (hmatches : ∀ x y, area.Contains x y →
        contents.Matches value steps x y area.layer.toNat) :
      Verdict contents area value steps (.ok ()) [c]
  | failed {c : Check} {m : ProbeMismatch}
      (hcheck : Step.checkProbe contents area value = .ok ()) (hok : c.ok = false)
      (hmessage : c.message = m.message)
      (hfirst : contents.IsFirstMismatch area value steps m)
      (hdecodes : contents.IsLaidOut →
        contents.Decodes value m.x m.y area.layer.toNat m.got ∧ m.got.length = value.length) :
      Verdict contents area value steps (.ok ()) [c]
  | broken {e : ArithmeticError} (hcheck : Step.checkProbe contents area value = .ok ())
      (hbeyond : ∃ x y, area.Contains x y ∧ contents.texel x y area.layer.toNat = .error e)
      (hlaid : ¬ contents.IsLaidOut) :
      Verdict contents area value steps (.error (.arithmetic e)) []

/-- What comes of a test line with a probe: nothing is read back and nothing recorded; or nothing
    could be read back, which is a failed check; or the reading broke off; or there is a verdict
    about what was read, for a rectangle with the same texels of a layer. -/
inductive ProbeCourse (rect : ProbeRect) (value : ProbeValue) (steps : UInt32) :
    List (Except ArithmeticError (Option Readback)) → Except Fault Unit → List Check → Prop
  | silent (result : Except Fault Unit) : ProbeCourse rect value steps [] result []
  | unread {c : Check} (hok : c.ok = false) : ProbeCourse rect value steps [.ok none] (.ok ()) [c]
  | broken (e : ArithmeticError) :
      ProbeCourse rect value steps [.error e] (.error (.arithmetic e)) []
  | judged {contents : Readback} {area : ProbeRect} {result : Except Fault Unit}
      {recorded : List Check} (harea : ∀ x y, area.Contains x y ↔ rect.Contains x y)
      (hverdict : Verdict contents area value steps result recorded) :
      ProbeCourse rect value steps [.ok (some contents)] result recorded

namespace Step

variable {context : RunContext} {spot : Spot} {target : ResourceRef} {rect area : ProbeRect}
  {value : ProbeValue} {steps : UInt32} {s s' : RunState H} {events : List (Event H)}
  {result : Except Fault Unit}

/-- A check reads nothing back and is reported. -/
theorem check_course {E : Type} {c : Check} {r : Except E Unit}
    (h : (check context c : Step H E Unit).Runs s events r s') :
    r = .ok () ∧ readbacks events = [] ∧ checks events = [c] := by
  obtain ⟨rfl, hr, -⟩ := runs_check_iff.mp h
  exact ⟨hr, by simp, by simp⟩

/-- The rectangle of an area has the same columns and rows. -/
theorem contains_probeArea {desc : ResourceDesc} {subresource : UInt32}
    (h : probeArea desc target rect = .ok (subresource, area)) (x y : ℕ) :
    area.Contains x y ↔ rect.Contains x y := by
  unfold probeArea at h
  split at h
  · obtain ⟨-, rfl⟩ := Prod.mk.inj (Except.ok.inj h)
    rfl
  · split at h
    · cases h
    · split at h
      · obtain ⟨-, rfl⟩ := Prod.mk.inj (Except.ok.inj h)
        rfl
      · cases h

/-- A probe reports the first mismatch. -/
theorem compareProbe_course {contents : Readback}
    (hcheck : checkProbe contents area value = .ok ())
    (h : (compareProbe context spot contents area value steps : Step H Fault Unit).Runs s events
      result s') :
    readbacks events = [] ∧ Verdict contents area value steps result (checks events) := by
  unfold compareProbe at h
  -- A texel of the rectangle is decoded if contents are laid out, so there is no need for a
  -- placeholder, and no search goes beyond the address space.
  have hdecodes (hlaid : contents.IsLaidOut) {x y : ℕ} (hcontains : area.Contains x y) :=
    Readback.decodes_of_checkProbe hlaid hcheck hcontains
  split at h
  · rename_i e hbroken
    obtain ⟨rfl, rfl, -⟩ := runs_refuse_iff.mp h
    obtain ⟨m, hsome, hbeyond⟩ := Readback.verdict_eq_error_iff.mp hbroken
    have hfirst := Readback.isFirstMismatch_iff.mpr hsome
    refine ⟨rfl, .broken hcheck ⟨m.x, m.y, hfirst.contains, hbeyond⟩ fun hlaid => ?_⟩
    obtain ⟨got, texel, htexel, -⟩ := hdecodes hlaid hfirst.contains
    rw [Readback.texel?_eq_some_iff, hbeyond] at htexel
    cases htexel
  · rename_i hnone
    obtain ⟨rfl, hread, hchecks⟩ := check_course h
    rw [hchecks]
    refine ⟨hread, .passed hcheck rfl fun x y hcontains => ?_⟩
    exact Readback.probeTexel_eq_none_iff_matches.mp
      (Readback.probe_eq_none_iff.mp (Readback.verdict_eq_ok_none_iff.mp hnone) x y hcontains)
  · rename_i m hsome
    obtain ⟨rfl, hread, hchecks⟩ := check_course h
    have hfirst := Readback.isFirstMismatch_iff.mpr (Readback.verdict_eq_ok_some_iff.mp hsome).1
    rw [hchecks]
    refine ⟨hread, .failed hcheck rfl rfl hfirst fun hlaid => ?_⟩
    obtain ⟨got, hgot⟩ := hdecodes hlaid hfirst.contains
    obtain hdecodes | ⟨-, hnone⟩ := hfirst.got
    · exact ⟨hdecodes, hdecodes.length_eq⟩
    · exact absurd hgot (hnone got)

/-- A probe reads back at most once, and judges what it read. -/
theorem readProbe_course
    (h : (readProbe context spot target rect value steps : Step H Fault Unit).Runs s events
      result s') :
    ProbeCourse rect value steps (readbacks events) result (checks events) := by
  cases readProbe_cases h with
  -- A resource that does not exist, and a layer that it has not, are refused before it is read.
  | refused => exact .silent _
  | asked hlive harea hanswered =>
    rw [readbacks_cons, checks_cons, readback?_asked_readback, RunState.check?_asked]
    cases hanswered with
    | broken e => exact .broken e
    | unread hcheck =>
      obtain ⟨rfl, hread, hchecks⟩ := check_course hcheck
      rw [hread, hchecks]
      exact .unread rfl
    | unfit hfits => exact .judged (contains_probeArea harea) (.refused hfits)
    | compared hfits hcompare =>
      obtain ⟨hread, hverdict⟩ := compareProbe_course hfits hcompare
      rw [hread]
      exact .judged (contains_probeArea harea) hverdict

/-- After a failed draw or dispatch nothing is read back. -/
theorem probe_course
    (h : (probe context spot target rect value steps : Step H Fault Unit).Runs s events result s') :
    ProbeCourse rect value steps (readbacks events) result (checks events) := by
  rw [probe, runs_session_bind_iff] at h
  split at h
  · obtain ⟨rfl, -, -⟩ := runs_log_iff.mp h
    exact .silent result
  · exact readProbe_course h

/-! ## Test lines -/

/-- To compile a stage again reads nothing back and reports no check. -/
theorem refreshStage_quiet {E : Type} {type : ShaderType} {r : Except E Unit}
    (h : (refreshStage context type : Step H E Unit).Runs s events r s') :
    ∃ a, r = .ok a ∧ readbacks events = [] ∧ checks events = [] := by
  obtain ⟨hr, hrefreshed⟩ := refreshStage_cases h
  refine ⟨(), hr, ?_⟩
  cases hrefreshed with
  | fresh => simp
  | again => simp

/-- Nothing is read back or checked while stages are compiled again. -/
theorem refreshStages_quiet {E : Type} {types : List ShaderType} {r : Except E Unit}
    (h : (refreshStages context types : Step H E Unit).Runs s events r s') :
    ∃ a, r = .ok a ∧ readbacks events = [] ∧ checks events = [] := by
  induction types generalizing s events with
  | nil =>
    obtain ⟨rfl, hr, -⟩ := runs_pure_iff.mp h
    exact ⟨(), hr, rfl, rfl⟩
  | cons type types ih =>
    obtain ⟨before, _, t, after, ⟨hread, hchecks⟩, hrest, rfl⟩ := Runs.bind_inv h refreshStage_quiet
    obtain ⟨a, hr, hread', hchecks'⟩ := ih hrest
    exact ⟨a, hr, by simp [hread, hread'], by simp [hchecks, hchecks']⟩

/-- The command of a probe reads back once at most, and reports what it says. -/
theorem runCommand_course {test : TestLine} {line : Nat}
    (hcommand : test.command = .probe target rect value steps)
    (h : (runCommand context test line : Step H Fault Unit).Runs s events result s') :
    ProbeCourse rect value steps (readbacks events) result (checks events) := by
  -- Stages are compiled again first, and then nothing is executed after a failure.
  cases runCommand_cases h with
  | suppressed entry hrefresh =>
    obtain ⟨-, -, hread, hchecks⟩ := refreshStages_quiet hrefresh
    rw [readbacks_cons, checks_cons, readbacks_append, checks_append, hread, hchecks]
    exact .silent (.ok ())
  | executed hrefresh hsound hexecute =>
    obtain ⟨-, -, hread, hchecks⟩ := refreshStages_quiet hrefresh
    rw [readbacks_cons, checks_cons, readbacks_append, checks_append, hread, hchecks]
    rw [hcommand] at hexecute
    rw [readbacks_cons, checks_cons]
    exact probe_course hexecute

end Step

namespace ProbeRect.IsNonempty

/-- The first texel of a rectangle. -/
theorem exists_contains {rect : ProbeRect} (h : rect.IsNonempty) : ∃ x y, rect.Contains x y :=
  ⟨rect.left.toNat, rect.top.toNat, ⟨le_refl _, h.columns⟩, le_refl _, h.rows⟩

end ProbeRect.IsNonempty

/-- A line that is read as a probe names a texel and expects a component.  Contents that are laid
    out and pass its checks have every texel, and as many components as are expected, all of which
    are compared.  So a check that passes has compared components, and one that fails for a
    mismatch says what its texel is decoded into. -/
theorem probeCourse_of_read {qualifiers : QualifierContext} {text : Text} {todo bug : Bool}
    {target : ResourceRef} {rect : ProbeRect} {value : ProbeValue} {steps : UInt32}
    (hread : TestLine.read qualifiers text =
      .ok (some ⟨todo, bug, .probe target rect value steps⟩)) :
    (∃ x y, rect.Contains x y) ∧ 0 < value.length ∧
    (∀ contents area, contents.IsLaidOut → Step.checkProbe contents area value = .ok () →
      ∀ x y, area.Contains x y → ∃ got, contents.Decodes value x y area.layer.toNat got ∧
        got.length = value.length ∧
        (got.matchesWithin steps value = true ↔ got.Near steps value)) ∧
    ∀ {H : Type} (context : RunContext) (s s' : RunState H) (line : Nat) events result,
      qualifiers = ⟨s.session.minimumModel, context.caps.tags⟩ →
      (Step.runTestLine context text line : Step H Fault Unit).Runs s events result s' →
      ProbeCourse rect value steps (readbacks events) result (checks events) := by
  obtain ⟨hrect, hvalue⟩ := TestLine.sound_of_read hread
  refine ⟨hrect.exists_contains, hvalue, ?_, ?_⟩
  · intro contents area hlaid hcheck x y hcontains
    obtain ⟨got, hgot⟩ := Readback.decodes_of_checkProbe hlaid hcheck hcontains
    exact ⟨got, hgot, hgot.length_eq, hgot.matchesWithin_iff⟩
  · rintro H context s s' line events result rfl hrun
    rw [Step.runTestLine, Step.runs_session_bind_iff] at hrun
    split at hrun
    · rw [Step.qualifierContext, bind_assoc, Step.runs_session_bind_iff, pure_bind, hread,
        Step.runs_ofExcept_ok_bind_iff] at hrun
      exact Step.runCommand_course rfl hrun
    · -- Nothing happens while test lines are not executed.
      obtain ⟨rfl, -, -⟩ := Step.runs_pure_iff.mp hrun
      exact .silent result

/-- A probe for a texel that is half opaque. -/
def halfOpaque : Text := "probe (0, 0) rgba (0.0, 0.0, 0.0, 0.5)".toList

/-- A run in which there is a render target of one texel. -/
def oneTexel : RunState Nat :=
  (RunState.start ⟨"texel", .run, .plain⟩).withRegistry fun registry =>
    { registry with resources := [⟨.fresh .renderTarget 0, 0⟩] }

/-- A backend that keeps a texel of zeros for it. -/
def zeroTexel : Journal.State :=
  { Journal.State.fresh none with live := [⟨0, .fresh .renderTarget 0, zeros 16⟩] }

/-- The line with the probe, at the beginning of a file. -/
def halfOpaqueLine : Step Nat Fault Unit := Step.runTestLine ⟨"texel", .run, .plain⟩ halfOpaque 2

/-- What happens there. -/
def halfOpaqueTrace : List (Event Nat) :=
  (halfOpaqueLine.run.run oneTexel).transcript (Journal.surroundings .willing).moments zeroTexel

/-- The probe fails, and says what the texel is. -/
theorem probeCourse_halfOpaque :
    (∃ result, ProbeCourse ⟨0, 0, 1, 1, 0⟩ (.f32 [.zero, .zero, .zero, ⟨0x3f000000⟩]) 0
      (readbacks halfOpaqueTrace) result (checks halfOpaqueTrace)) ∧
    (checks halfOpaqueTrace).map (fun c => (c.ok, c.message)) =
      [(false, "Got [0.0, 0.0, 0.0, 0.0], expected [0.0, 0.0, 0.0, 0.5] at (0, 0).")] := by
  have hread : TestLine.read ⟨oneTexel.session.minimumModel, []⟩ halfOpaque =
      .ok (some ⟨false, false, .probe ⟨.renderTarget, 0⟩ ⟨0, 0, 1, 1, 0⟩
        (.f32 [.zero, .zero, .zero, ⟨0x3f000000⟩]) 0⟩) :=
    Step.eq_ok_of_toOption (by decide +kernel)
  obtain ⟨-, -, -, hcourse⟩ := probeCourse_of_read hread
  have hrun := Dialogue.runs_transcript (Journal.surroundings .willing).moments
    (halfOpaqueLine.run.run oneTexel) zeroTexel
  exact ⟨⟨_, hcourse ⟨"texel", .run, .plain⟩ oneTexel _ 2 _ _ rfl hrun⟩, by decide +kernel⟩

end ShaderConformance
