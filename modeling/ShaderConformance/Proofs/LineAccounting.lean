import ShaderConformance.Proofs.ProbeVerdicts

/-!
# What a test line adds to the summary

A test line is counted at most once, whatever is done for it: a quad that lacks a part is given up
with the report about the part, and what was compiled again for the line is not reported.  Only a
probe that finds what it expects passes, and only where nothing else is expected of it.

## Main definitions

- `Summary.Setback`: a summary counts at most one report more, and no pass
- `Step.Found`: a probe reads its target back once, and every texel matches
- `Step.Dropped`: a test line is left out

## Main statements

- `Step.execute_accounts`: what the execution of every command adds
- `Step.accounted_of_runTestLine`: what a test line adds, and what adds nothing
-/

namespace ShaderConformance

variable {H : Type}

/-! ## Summaries -/

/-- Only a success of which none was expected to fail passes. -/
theorem Outcome.classify_eq_pass_iff {ok todo bug : Bool} :
    Outcome.classify ok todo bug = .pass ↔ ok = true ∧ todo = false ∧ bug = false := by
  cases ok <;> cases todo <;> cases bug <;> decide

namespace Summary

/-- An outcome is counted once. -/
theorem total_count (summary : Summary) (outcome : Outcome) :
    (summary.count outcome).total = summary.total + 1 := by
  cases outcome <;> simp only [count, total] <;> omega

/-- What is skipped is counted once. -/
theorem total_skip (summary : Summary) : summary.skip.total = summary.total + 1 := by
  simp only [skip, total]
  omega

/-- Nothing but a pass is counted as passed. -/
theorem passed_count (summary : Summary) {outcome : Outcome} (h : outcome ≠ .pass) :
    (summary.count outcome).passed = summary.passed := by
  cases outcome with
  | pass => exact absurd rfl h
  | todo | bug | fail => rfl

/-- A summary counts at most one report more than another, and not a pass. -/
inductive Setback (before : Summary) : Summary → Prop
  | silent : Setback before before
  | counted {outcome : Outcome} (h : outcome ≠ .pass) : Setback before (before.count outcome)
  | skipped : Setback before before.skip

/-- A summary counts at most one report more than another. -/
inductive Advances (before : Summary) : Summary → Prop
  | silent : Advances before before
  | counted (outcome : Outcome) : Advances before (before.count outcome)
  | skipped : Advances before before.skip

variable {before after : Summary}

/-- A setback advances the counters by one at most. -/
theorem Setback.advances (h : before.Setback after) : before.Advances after := by
  cases h with
  | silent => exact .silent
  | counted => exact .counted _
  | skipped => exact .skipped

/-- A setback passes nothing. -/
theorem Setback.passed_eq (h : before.Setback after) : after.passed = before.passed := by
  cases h with
  | silent => rfl
  | counted h => exact before.passed_count h
  | skipped => rfl

/-- Counters advance by one at most. -/
theorem Advances.total_le (h : before.Advances after) : after.total ≤ before.total + 1 := by
  cases h with
  | silent => omega
  | counted outcome => exact (before.total_count outcome).le
  | skipped => exact before.total_skip.le

end Summary

namespace Step

variable {E T : Type} {context : RunContext} {spot : Spot} {s s' : RunState H}
  {events : List (Event H)}

/-- A step is reported at most once, and not as a pass. -/
def SetsBack (x : Step H E T) : Prop :=
  ∀ ⦃s events r s'⦄, x.Runs s events r s' → s.summary.Setback s'.summary

namespace SetsBack

/-! ## Steps that set back -/

/-- A request counts nothing. -/
theorem ask_bind {q : Request H} {f : q.Answer → Step H E T} (hf : ∀ a, SetsBack (f a)) :
    SetsBack (ask q >>= f) := by
  intro s events r s' h
  obtain ⟨a, rest, rfl, hrest⟩ := runs_ask_bind_iff.mp h
  exact hf a hrest

/-- To look at the session counts nothing. -/
theorem session_bind {f : Session H → Step H E T} (hf : ∀ session, SetsBack (f session)) :
    SetsBack (session >>= f) :=
  fun s _ _ _ h => hf s.session h

theorem modifySession_bind {f : Session H → Session H} {x : Unit → Step H E T}
    (hx : SetsBack (x ())) : SetsBack (modifySession f >>= x) := by
  intro s events r s' h
  have hsetback := hx (runs_modifySession_bind_iff.mp h)
  exact hsetback

theorem modifySession {f : Session H → Session H} :
    SetsBack (modifySession f : Step H E Unit) := by
  intro s events r s' h
  obtain ⟨-, -, rfl⟩ := runs_modifySession_iff.mp h
  exact .silent

/-- A check that fails is a setback. -/
theorem check {c : Check} (hfailed : c.ok = false) :
    SetsBack (check context c : Step H E Unit) := by
  intro s events r s' h
  obtain ⟨-, -, rfl⟩ := runs_check_iff.mp h
  refine .counted fun hpass => ?_
  rw [(Outcome.classify_eq_pass_iff.mp hpass).1] at hfailed
  cases hfailed

/-- An expected success is only reported if it fails. -/
theorem expectSuccess {ok : Bool} {message : String} :
    SetsBack (expectSuccess context spot ok message : Step H E Unit) := by
  cases ok with
  | true =>
    intro s events r s' h
    obtain ⟨-, -, rfl⟩ := runs_pure_iff.mp h
    exact .silent
  | false => exact check rfl

/-- A render is only reported if it fails. -/
theorem rendered {ok : Bool} {message : String} :
    SetsBack (rendered context spot ok message : Step H E Unit) :=
  modifySession_bind expectSuccess

/-- To look a resource up counts nothing. -/
theorem lookup_bind {ref : ResourceRef} {f : Resource H → Step H Fault T}
    (hf : ∀ resource, SetsBack (f resource)) : SetsBack (lookup ref >>= f) := by
  intro s events r s' h
  obtain ⟨resource, -, hrest⟩ | ⟨-, -, rfl⟩ := Runs.lookup_bind_inv h
  · exact hf resource hrest
  · exact .silent

/-- A clear sets back at most. -/
theorem clear {ref : ResourceRef} {value : ClearValue} {message : String} :
    SetsBack (H := H) (clear context spot ref value message) :=
  .lookup_bind fun _ => .ask_bind fun _ => .expectSuccess

/-- A copy sets back at most. -/
theorem copy {source target : ResourceRef} :
    SetsBack (H := H) (copy context spot source target) := by
  refine .lookup_bind fun read => .lookup_bind fun written => ?_
  cases hmismatch : copyMismatch? read.desc written.desc with
  | some mismatch =>
    intro s events r s' h
    obtain ⟨-, -, rfl⟩ := runs_refuse_iff.mp h
    exact .silent
  | none => exact .ask_bind fun _ => .expectSuccess

end SetsBack

/-! ## Quads -/

/-- A creation sets back at most. -/
theorem createResource_setsBack {desc : ResourceDesc} {data : List UInt8} {line : Nat} :
    SetsBack (H := H) (createResource context desc data line) := by
  refine .ask_bind fun _ => .ask_bind fun created s events r s' h => ?_
  cases created with
  | ok handle =>
    obtain ⟨r', hregister⟩ := runs_of_bind_pure h
    have hregistered : (∀ event ∈ events, event.fails .drawQuad = false) ∧
        s'.summary = s.summary := register_fails hregister
    rw [hregistered.2]
    exact .silent
  | error error =>
    -- The creation of a part is reported without what is expected of the line.
    obtain ⟨r', hfailed⟩ := runs_of_bind_pure h
    rw [(creationFailed_counts ⟨line, false, false⟩ .drawQuad data hfailed).2.2]
    cases error with
    | unsupported => exact .skipped
    | failed =>
      have hfail : Outcome.fail ≠ .pass := by decide
      exact .counted hfail

/-- A render target that has to be created sets back at most. -/
theorem ensureTarget_setsBack {line : Nat} :
    SetsBack (H := H) (ensureTarget context line) := by
  refine .session_bind fun session s events r s' h => ?_
  split at h
  · obtain ⟨-, -, rfl⟩ := runs_pure_iff.mp h
    exact .silent
  · exact createResource_setsBack h

/-- The shaders of a quad set back at most. -/
theorem compileQuad_setsBack : SetsBack (H := H) (compileQuad (E := Fault) context spot) := by
  intro s events r s' h
  obtain ⟨made, -, hcases⟩ := compileQuad_cases h
  cases hcases with
  | compiled compiled => exact .silent
  | failed error hcheck =>
    have hsetback := SetsBack.check rfl hcheck
    exact hsetback

/-- Nothing is counted for a part that is made, so that what comes after it may be. -/
theorem SetsBack.part_bind {x : Step H Fault Bool} {f : Step H Fault Unit}
    (hpart : CountsPart spot .drawQuad x) (hx : SetsBack x) (hf : SetsBack f) :
    SetsBack (x >>= fun made => if made = true then f else pure ()) := by
  intro s events r s' h
  obtain ⟨before, t, after, hrun, hrest, -⟩ | ⟨_, hrun⟩ := Runs.part_inv h
  · rw [← hpart.made hrun]
    exact hf hrest
  · exact hx hrun

/-- A quad sets back at most. -/
theorem drawQuad_setsBack : SetsBack (H := H) (drawQuad context spot) := by
  have htarget : CountsPart (H := H) spot .drawQuad (ensureTarget context spot.line) :=
    ensureTarget_countsPart
  have hbuffer : CountsPart (H := H) spot .drawQuad
      (createResource context quadBuffer quadVertices spot.line) := createResource_countsPart
  refine .part_bind htarget ensureTarget_setsBack (.modifySession_bind ?_)
  refine .part_bind compileQuad_countsPart compileQuad_setsBack ?_
  refine .part_bind hbuffer createResource_setsBack ?_
  exact .session_bind fun _ => .ask_bind fun _ => .rendered

/-! ## Probes -/

section Probes

variable {target : ResourceRef} {rect area : ProbeRect} {value : ProbeValue} {steps : UInt32}
  {r : Except Fault Unit}

/-- A probe reads a live resource back, once, and what was read of its rectangle is what is
    expected: it has every texel, and all of them match. -/
inductive Found (target : ResourceRef) (rect : ProbeRect) (value : ProbeValue) (steps : UInt32)
    (events : List (Event H)) : Prop
  | intro {t : RunState H} {resource : Resource H} {subresource : UInt32} {area : ProbeRect}
      {contents : Readback} (hlive : t.session.registry.get? target = some resource)
      (harea : probeArea resource.desc target rect = .ok (subresource, area))
      (hread : t.asked (.readback resource subresource) (.ok (some contents)) ∈ events)
      (honce : readbacks events = [.ok (some contents)])
      (hfits : checkProbe contents area value = .ok ())
      (hmatches : ∀ x y, rect.Contains x y →
        contents.Matches value steps x y area.layer.toNat)

/-- What is found in the last of some events, of which the others read nothing. -/
theorem Found.after {before : List (Event H)} (hquiet : readbacks before = [])
    (h : Found target rect value steps events) :
    Found target rect value steps (before ++ events) := by
  obtain ⟨hlive, harea, hread, honce, hfits, hmatches⟩ := h
  refine ⟨hlive, harea, List.mem_append_right before hread, ?_, hfits, hmatches⟩
  rw [readbacks_append, hquiet, honce, List.nil_append]

/-- What the execution of a command adds: at most one report, which is a pass only of a probe that
    found what is expected. -/
inductive Accounts (spot : Spot) (command : Command) (s : RunState H) (events : List (Event H))
    (s' : RunState H) : Prop
  | setback (h : s.summary.Setback s'.summary)
  | passed {target : ResourceRef} {rect : ProbeRect} {value : ProbeValue} {steps : UInt32}
      (hcommand : command = .probe target rect value steps) (htodo : spot.todo = false)
      (hbug : spot.bug = false) (hfound : Found target rect value steps events)
      (hsummary : s'.summary = s.summary.count .pass)

/-- Contents that a probe fits are compared, and every texel matches or the check fails. -/
theorem compareProbe_accounts {contents : Readback} {rest : List (Event H)}
    (h : (compareProbe context spot contents area value steps : Step H Fault Unit).Runs s rest r
      s') :
    s.summary.Setback s'.summary ∨
      spot.todo = false ∧ spot.bug = false ∧ readbacks rest = [] ∧
        s'.summary = s.summary.count .pass ∧
        ∀ x y, area.Contains x y → contents.Matches value steps x y area.layer.toNat := by
  unfold compareProbe at h
  split at h
  · obtain ⟨-, -, rfl⟩ := runs_refuse_iff.mp h
    exact .inl .silent
  · rename_i hnone
    obtain ⟨-, hquiet, -⟩ := check_course h
    obtain ⟨-, -, rfl⟩ := runs_check_iff.mp h
    by_cases hpass : Outcome.classify true spot.todo spot.bug = .pass
    · obtain ⟨-, htodo, hbug⟩ := Outcome.classify_eq_pass_iff.mp hpass
      refine .inr ⟨htodo, hbug, hquiet, ?_, fun x y hcontains => ?_⟩
      · exact congrArg s.summary.count hpass
      · exact Readback.probeTexel_eq_none_iff_matches.mp
          (Readback.probe_eq_none_iff.mp (Readback.verdict_eq_ok_none_iff.mp hnone) x y hcontains)
    · -- A match that was not expected fails.
      exact .inl (.counted hpass)
  · exact .inl (SetsBack.check (by rfl) h)

/-- A probe is reported at most once, and passes only if it found what is expected. -/
theorem readProbe_accounts
    (h : (readProbe context spot target rect value steps : Step H Fault Unit).Runs s events r s') :
    Accounts spot (.probe target rect value steps) s events s' := by
  cases readProbe_cases h with
  | refused => exact .setback .silent
  | asked hlive harea hanswered =>
    cases hanswered with
    | broken | unfit => exact .setback .silent
    | unread hcheck => exact .setback (SetsBack.check rfl hcheck)
    | compared hfits hcompare =>
      obtain hsetback | ⟨htodo, hbug, hquiet, hsummary, hmatches⟩ := compareProbe_accounts hcompare
      · exact .setback hsetback
      refine .passed rfl htodo hbug ⟨hlive, harea, List.mem_cons_self, ?_, hfits, ?_⟩ hsummary
      · rw [readbacks_cons, hquiet]
        rfl
      · intro x y hcontains
        exact hmatches x y ((contains_probeArea harea x y).mpr hcontains)

end Probes

/-! ## Commands -/

/-- The execution of every command is reported at most once, and passes only as a probe that found
    what is expected. -/
theorem execute_accounts {command : Command} {r : Except Fault Unit}
    (h : (execute context spot command : Step H Fault Unit).Runs s events r s') :
    Accounts spot command s events s' := by
  -- One case for each command; those that only change settings are alike.
  cases command with
  | probe target rect value steps =>
    rw [execute, probe, runs_session_bind_iff] at h
    split at h
    · obtain ⟨-, -, rfl⟩ := runs_log_iff.mp h
      exact .setback .silent
    · exact readProbe_accounts h
  | dispatch x y z =>
    have hback : SetsBack (H := H) (execute context spot (.dispatch x y z)) :=
      .session_bind fun _ => .ask_bind fun _ => .rendered
    exact .setback (hback h)
  | draw topology vertices instances =>
    have hback : SetsBack (H := H) (execute context spot (.draw topology vertices instances)) :=
      .session_bind fun _ => .ask_bind fun _ => .rendered
    exact .setback (hback h)
  | drawQuad => exact .setback (drawQuad_setsBack h)
  | clearTarget slot colour => exact .setback (SetsBack.clear h)
  | clearDepth depth => exact .setback (SetsBack.clear h)
  | copy source target => exact .setback (SetsBack.copy h)
  | depthFunc | depthBounds | uniform | sampleMask | alphaTest | shadeMode | clipPlane
  | pointSize | pointSprite | fog | fogColour | viewport =>
    rw [execute] at h
    exact .setback (SetsBack.modifySession h)

/-! ## Test lines -/

/-- A test line is left out, so that nothing is executed for it. -/
inductive Dropped (context : RunContext) (text : Text) (line : Nat) (s : RunState H)
    (events : List (Event H)) : Prop
  /-- Test lines are skipped, or sources are only compiled. -/
  | inactive (haction : s.session.action ≠ .run)
  /-- The line is for other shader models or backends. -/
  | conditional
      (hread : TestLine.read ⟨s.session.minimumModel, context.caps.tags⟩ text = .ok none)
  /-- A resource failed, or a shader, also one that was compiled again for the line. -/
  | suppressed {test : TestLine} {t : RunState H} {refreshed rest : List (Event H)}
      (hevents : events = s.noted (.turn (.read line test)) :: refreshed ++ rest)
      (hrefresh : (refreshStages context ShaderType.all : Step H Fault Unit).Runs s refreshed
        (.ok ()) t)
      (hfails : t.session.registry.hasFailures = true ∨ t.session.hasFailedShader = true)

/-- A command passes nothing unless it is a probe that finds what it looks for. -/
theorem runCommand_accounts {test : TestLine} {line : Nat} {r : Except Fault Unit}
    (h : (runCommand context test line : Step H Fault Unit).Runs s events r s') :
    Accounts ⟨line, test.todo, test.bug⟩ test.command s events s' := by
  cases runCommand_cases h with
  | suppressed entry hrefresh =>
    obtain ⟨-, -, hrefreshes⟩ := refreshStages_refreshes hrefresh
    exact .setback (hrefreshes.summary ▸ .silent)
  | executed hrefresh hsound hexecute =>
    -- Nothing is counted or read back before the line is executed.
    obtain ⟨-, -, hrefreshes⟩ := refreshStages_refreshes hrefresh
    obtain ⟨-, -, hquiet, -⟩ := refreshStages_quiet hrefresh
    obtain hsetback | ⟨hcommand, htodo, hbug, hfound, hsummary⟩ := execute_accounts hexecute
    · exact .setback (hrefreshes.summary ▸ hsetback)
    · rename_i t refreshed executed _ _ _ _
      have hbefore : readbacks (s.noted (.turn (.read line test)) ::
          (refreshed ++ [t.noted (.turn (.execute line test))])) = [] := by simp [hquiet]
      refine .passed hcommand htodo hbug ?_ (hrefreshes.summary ▸ hsummary)
      simpa using hfound.after hbefore

/-- A command that is left out adds nothing. -/
theorem runCommand_suppressed {test test' : TestLine} {line : Nat} {t : RunState H}
    {refreshed rest : List (Event H)} {r : Except Fault Unit}
    (h : (runCommand context test line : Step H Fault Unit).Runs s events r s')
    (hevents : events = s.noted (.turn (.read line test')) :: refreshed ++ rest)
    (hrefresh : (refreshStages context ShaderType.all : Step H Fault Unit).Runs s refreshed
      (.ok ()) t)
    (hfails : t.session.registry.hasFailures = true ∨ t.session.hasFailedShader = true) :
    s'.summary = s.summary := by
  cases runCommand_cases h with
  | suppressed entry hrefresh =>
    obtain ⟨-, -, hrefreshes⟩ := refreshStages_refreshes hrefresh
    exact hrefreshes.summary
  | executed hrefresh' hsound hexecute =>
    -- The stages were compiled again with the same answers, so the same state was left.
    obtain ⟨-, hrest⟩ := List.cons.inj hevents
    obtain ⟨-, hsame⟩ := Dialogue.Runs.unique_of_append hrefresh' hrefresh hrest
    obtain rfl := (Prod.mk.inj hsame).2
    exact absurd hfails hsound

/-- A test line adds at most one report to the summary, whatever the backend and the compiler
    answer.  It adds a pass only if it is a probe, of which nothing else is expected, that reads
    its target back and finds what it expects in every texel.  A line that is left out adds
    nothing. -/
theorem accounted_of_runTestLine {text : Text} {line : Nat} {r : Except Fault Unit}
    (h : (runTestLine context text line : Step H Fault Unit).Runs s events r s') :
    s.summary.Advances s'.summary ∧ s'.summary.total ≤ s.summary.total + 1 ∧
    (s.summary.passed < s'.summary.passed → ∃ target rect value steps,
      TestLine.read ⟨s.session.minimumModel, context.caps.tags⟩ text =
        .ok (some ⟨false, false, .probe target rect value steps⟩) ∧
      Found target rect value steps events) ∧
    (Dropped context text line s events → s'.summary = s.summary) := by
  cases runTestLine_cases h with
  | inactive | refused | conditional =>
    exact ⟨.silent, by omega, fun hlt => absurd hlt (lt_irrefl _), fun _ => rfl⟩
  | taken haction hread hcommand =>
    have hdropped : Dropped context text line s events → s'.summary = s.summary := by
      intro hdropped
      obtain hinactive | hnone | ⟨hevents, hrefresh, hfails⟩ := hdropped
      · exact absurd haction hinactive
      · simp [hread] at hnone
      · exact runCommand_suppressed hcommand hevents hrefresh hfails
    obtain hsetback | ⟨hprobe, htodo, hbug, hfound, hsummary⟩ := runCommand_accounts hcommand
    · -- A setback counts something other than a pass.
      refine ⟨hsetback.advances, hsetback.advances.total_le, fun hlt => ?_, hdropped⟩
      rw [hsetback.passed_eq] at hlt
      exact absurd hlt (lt_irrefl _)
    · -- What counts a pass is a probe without a mark on its line.
      rename_i test target rect value steps
      have hadvances : s.summary.Advances s'.summary := hsummary ▸ .counted .pass
      refine ⟨hadvances, hadvances.total_le, fun _ => ⟨target, rect, value, steps, ?_, hfound⟩,
        hdropped⟩
      obtain ⟨todo, bug, command⟩ := test
      subst hprobe htodo hbug
      exact hread

/-- A probe for a texel of zeros, at the beginning of a file. -/
def zeroLine : Step Nat Fault Unit :=
  runTestLine ⟨"texel", .run, .plain⟩ "probe (0, 0) rgba (0.0, 0.0, 0.0, 0.0)".toList 2

/-- What happens where there is such a texel. -/
def zeroTrace : List (Event Nat) :=
  (zeroLine.run.run oneTexel).transcript (Journal.surroundings .willing).moments zeroTexel

/-- What is left after it. -/
def zeroEnd : RunState Nat :=
  ((zeroLine.run.run oneTexel).answer (Journal.surroundings .willing).moments zeroTexel).1.2

/-- The probe passes, since it finds the texel. -/
theorem accounted_zeroTexel :
    oneTexel.summary.Advances zeroEnd.summary ∧ zeroEnd.summary = oneTexel.summary.count .pass ∧
    Found ⟨.renderTarget, 0⟩ ⟨0, 0, 1, 1, 0⟩ (.f32 [.zero, .zero, .zero, .zero]) 0 zeroTrace := by
  have hrun : zeroLine.Runs oneTexel zeroTrace _ zeroEnd :=
    Dialogue.runs_transcript (Journal.surroundings .willing).moments
      (zeroLine.run.run oneTexel) zeroTexel
  obtain ⟨hadvances, -, hfound, -⟩ := accounted_of_runTestLine hrun
  have hpass : zeroEnd.summary = oneTexel.summary.count .pass := by decide +kernel
  obtain ⟨target, rect, value, steps, hread, hfound⟩ := hfound (by rw [hpass]; decide)
  have hprobe : TestLine.read ⟨oneTexel.session.minimumModel, []⟩
      "probe (0, 0) rgba (0.0, 0.0, 0.0, 0.0)".toList =
      .ok (some ⟨false, false, .probe ⟨.renderTarget, 0⟩ ⟨0, 0, 1, 1, 0⟩
        (.f32 [.zero, .zero, .zero, .zero]) 0⟩) := eq_ok_of_toOption (by decide +kernel)
  obtain ⟨rfl, rfl, rfl, rfl⟩ : target = ⟨.renderTarget, 0⟩ ∧ rect = ⟨0, 0, 1, 1, 0⟩ ∧
      value = .f32 [.zero, .zero, .zero, .zero] ∧ steps = 0 := by
    simpa using hread.symm.trans hprobe
  exact ⟨hadvances, hpass, hfound⟩

end Step

end ShaderConformance
