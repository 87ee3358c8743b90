import ShaderConformance.Gpu.Backend
import ShaderConformance.Gpu.Simulated.Formats
import ShaderConformance.Proofs.Dialogue

/-!
# Runs of programs on a device

The parts that programs on a graphics device are made of: error scopes, waiting for work, and
attempts, which end with the first fault.

## Main definitions

- `Gpu.submitted`: the commands that a device is handed
- `Gpu.plainDevice`: a device without optional features

## Main statements

- `Gpu.runs_inErrorScope`: a program in an error scope runs between two calls
- `Gpu.asks_finish`: what is asked while a device finishes its work
- `Gpu.runs_require_bind`, `Gpu.runs_call_bind`: what an attempt that goes on has found
- `Gpu.runs_ofExcept`: an attempt that goes on with a result had it
-/

namespace ShaderConformance.Gpu

open Dialogue

/-- A device without optional features. -/
def plainDevice : Device := ⟨fun _ => false, .plain, Simulated.formats⟩

/-! ## Programs -/

section Programs

variable {events : List (Dialogue.Event Call.Answer)} {P : Call → Prop}

/-- A program in an error scope runs between two calls, the last of which may give an error in
    place of its value. -/
theorem runs_inErrorScope {T : Type} {body : Program T} {result : Except String T}
    (hrun : (Program.inErrorScope body).Runs events result) :
    ∃ inner value error?, body.Runs inner value ∧ result = Option.elim error? (.ok value) .error ∧
      events = ⟨.pushErrorScope, ()⟩ :: (inner ++ [⟨.popErrorScope, error?⟩]) := by
  obtain ⟨_, rest, rfl, hrest⟩ := runs_question_bind_iff.mp hrun
  obtain ⟨inner, value, close, hbody, hclose, rfl⟩ := runs_bind_iff.mp hrest
  obtain ⟨error?, _, rfl, hdone⟩ := runs_question_bind_iff.mp hclose
  refine ⟨inner, value, error?, hbody, ?_⟩
  cases error? with
  | none | some =>
    obtain ⟨rfl, rfl⟩ := runs_done_iff.mp hdone
    exact ⟨rfl, rfl⟩

/-- An error scope adds two calls to those of the program in it. -/
theorem asks_inErrorScope {T : Type} {body : Program T} (hpush : P .pushErrorScope)
    (hpop : P .popErrorScope) (hbody : body.Asks P) : (Program.inErrorScope body).Asks P := by
  refine .bind (.question hpush) fun _ => .bind hbody fun value => ?_
  refine .bind (.question hpop) fun error? => ?_
  cases error? <;> exact .done _

/-- To poll a device is to make calls of two kinds. -/
theorem asks_poll (hpoll : P .poll) (hreport : ∀ entry, P (.report entry)) :
    Program.poll.Asks P := by
  refine .bind (.question hpoll) fun result => ?_
  cases result.uncaptured with
  | none => exact .bind (.done _) fun _ => .done _
  | some error => exact .bind (.question (hreport _)) fun _ => .done _

/-- To wait for work is to make no calls but these. -/
theorem asks_wait (hpoll : P .poll) (hreport : ∀ entry, P (.report entry)) :
    Program.wait.Asks P := by
  refine .bind (asks_poll hpoll hreport) fun finished => ?_
  cases finished with
  | ok => exact .done _
  | error error => exact .bind (.question (hreport _)) fun _ => .done _

/-- While a device finishes its work it is polled. -/
theorem asks_finish (hpoll : P .poll) (hreport : ∀ entry, P (.report entry)) (what : String)
    (result : Except String Bool) : (finish what result).Asks P := by
  unfold finish
  split
  · exact asks_wait hpoll hreport
  · exact .done _
  · exact .bind (.question (hreport _)) fun _ => .done _

/-- The commands that a call hands to a device. -/
def Call.commands : Call → List Command
  | .submit _ commands => commands
  | _ => []

/-- The commands that a device is handed. -/
def submitted (calls : List (Dialogue.Event Call.Answer)) : List Command :=
  calls.flatMap fun call => call.question.commands

/-- Commands are handed over in order. -/
@[simp] theorem submitted_append (before after : List (Dialogue.Event Call.Answer)) :
    submitted (before ++ after) = submitted before ++ submitted after :=
  List.flatMap_append

end Programs

/-! ## Attempts -/

section Attempts

variable {S T : Type} {events : List (Dialogue.Event Call.Answer)} {value : T} {fault : RenderFault}

/-- A value needs no call. -/
theorem runs_pure_ok {value' : T} (h : (pure value : Attempt T).run.Runs events (.ok value')) :
    events = [] ∧ value' = value := by
  obtain ⟨hevents, hvalue⟩ := Dialogue.runs_done_iff.mp h
  exact ⟨hevents, Except.ok.inj hvalue⟩

/-- What refuses has no value. -/
theorem not_runs_refuse : ¬(Attempt.refuse fault : Attempt T).run.Runs events (.ok value) := by
  intro h
  obtain ⟨-, heq⟩ := Dialogue.runs_done_iff.mp h
  cases heq

/-- Both parts of an attempt that goes on went on. -/
theorem runs_bind_ok {x : Attempt S} {f : S → Attempt T}
    (h : (x >>= f).run.Runs events (.ok value)) :
    ∃ before item after, x.run.Runs before (.ok item) ∧ (f item).run.Runs after (.ok value) ∧
      events = before ++ after := by
  obtain ⟨_, -, hvalue⟩ | hboth := Dialogue.runs_attempt_iff.mp h
  · cases hvalue
  · exact hboth

/-- What must be there is there if an attempt goes on. -/
theorem runs_require_bind {found : Option S} {f : S → Attempt T}
    (h : (Attempt.require fault found >>= f).run.Runs events (.ok value)) :
    ∃ item, found = some item ∧ (f item).run.Runs events (.ok value) := by
  cases found with
  | some item => exact ⟨item, rfl, h⟩
  | none =>
    obtain ⟨_, -, hvalue⟩ | ⟨_, _, _, hrefuse, -⟩ := Dialogue.runs_attempt_iff.mp h
    · cases hvalue
    · exact absurd hrefuse not_runs_refuse

/-- An attempt that goes on after a call has made it. -/
theorem runs_call_bind {c : Call} {f : c.Answer → Attempt T}
    (h : (Attempt.call c >>= f).run.Runs events (.ok value)) :
    ∃ answer rest, events = ⟨c, answer⟩ :: rest ∧ (f answer).run.Runs rest (.ok value) := by
  have hcall : (Attempt.call c).run = .ask c fun answer => .done (.ok answer) := rfl
  obtain ⟨_, -, hvalue⟩ | ⟨before, answer, after, hbefore, hafter, rfl⟩ :=
    Dialogue.runs_attempt_iff.mp h
  · cases hvalue
  · rw [hcall] at hbefore
    obtain ⟨answer', rest, rfl, hrest⟩ := Dialogue.runs_ask_iff.mp hbefore
    obtain ⟨rfl, heq⟩ := Dialogue.runs_done_iff.mp hrest
    cases heq
    exact ⟨answer, after, rfl, hafter⟩

/-- An attempt that goes on with a result had it. -/
theorem runs_ofExcept {result : Except RenderFault T}
    (h : (Attempt.ofExcept result).run.Runs events (.ok value)) : result = .ok value := by
  cases result with
  | ok value' =>
    obtain ⟨-, rfl⟩ := runs_pure_ok h
    rfl
  | error fault => exact absurd h not_runs_refuse

/-! What attempts ask. -/

variable {P : Call → Prop}

/-- A call is all that it asks. -/
theorem asks_attempt_call {c : Call} (hc : P c) : (Attempt.call c).run.Asks P :=
  .bind (.question hc) fun _ => .done _

/-- What has to be there is looked for without a call. -/
theorem asks_require (found : Option T) : (Attempt.require fault found).run.Asks P := by
  cases found <;> exact .done _

/-- A result that is there already needs no call. -/
theorem asks_ofExcept (result : Except RenderFault T) : (Attempt.ofExcept result).run.Asks P := by
  cases result <;> exact .done _

end Attempts

end ShaderConformance.Gpu
