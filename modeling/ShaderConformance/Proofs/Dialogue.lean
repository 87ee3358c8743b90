import ShaderConformance.Dialogue

/-!
# Runs of dialogues

A run of a dialogue is one way through it: the questions in the order in which they are
asked, each with the answer that it got.  Nothing is assumed of the answers, so what
holds of every run holds in all surroundings.

## Main statements

- `runs_bind_iff`: a run of one dialogue after another is a run of each
- `runs_attempt_iff`: a run of one attempt after another ends with the first fault
- `Asks.bind`, `Asks.attempt`: what two dialogues ask, one asks after the other
- `runs_transcript`: answering a dialogue makes a run of it
-/

namespace ShaderConformance.Dialogue

variable {Q : Type} {A : Q → Type} {S T U : Type}

/-- A question with the answer that it got. -/
structure Event (A : Q → Type) where
  question : Q
  answer : A question

/-- `d.Runs events value`: asking its questions and getting the answers of `events`,
    the dialogue `d` comes to `value`. -/
inductive Runs : Dialogue A T → List (Event A) → T → Prop
  | done (value : T) : Runs (.done value) [] value
  | ask (q : Q) (next : A q → Dialogue A T) (a : A q) {events : List (Event A)} {value : T}
      (rest : Runs (next a) events value) : Runs (.ask q next) (⟨q, a⟩ :: events) value

/-- A dialogue that is done has its value and no events. -/
theorem runs_done_iff {value v : T} {events : List (Event A)} :
    (done value : Dialogue A T).Runs events v ↔ events = [] ∧ v = value := by
  constructor
  · intro h
    cases h
    exact ⟨rfl, rfl⟩
  · rintro ⟨rfl, rfl⟩
    exact .done v

/-- A question is answered first, and the rest depends on the answer. -/
theorem runs_ask_iff {q : Q} {next : A q → Dialogue A T} {events : List (Event A)} {v : T} :
    (ask q next).Runs events v ↔
      ∃ a rest, events = ⟨q, a⟩ :: rest ∧ (next a).Runs rest v := by
  constructor
  · intro h
    cases h with
    | ask _ _ a rest => exact ⟨a, _, rfl, rest⟩
  · rintro ⟨a, rest, rfl, h⟩
    exact .ask q next a h

/-- The events of a run of one dialogue after another split where the second begins. -/
theorem runs_bind_iff {d : Dialogue A T} {f : T → Dialogue A U} {events : List (Event A)} {v : U} :
    (d.bind f).Runs events v ↔
      ∃ before t after, d.Runs before t ∧ (f t).Runs after v ∧ events = before ++ after := by
  induction d generalizing events with
  | done value =>
    -- The first dialogue is over, so all events are of the second.
    rw [done_bind]
    constructor
    · intro h
      exact ⟨[], value, events, .done value, h, rfl⟩
    · rintro ⟨before, t, after, hd, hf, rfl⟩
      obtain ⟨rfl, rfl⟩ := runs_done_iff.mp hd
      exact hf
  | ask q next ih =>
    -- The first event answers the question; the others split by the induction hypothesis.
    rw [ask_bind]
    constructor
    · intro h
      obtain ⟨a, rest, rfl, hrest⟩ := runs_ask_iff.mp h
      obtain ⟨before, t, after, hd, hf, rfl⟩ := (ih a).mp hrest
      exact ⟨⟨q, a⟩ :: before, t, after, .ask q next a hd, hf, rfl⟩
    · rintro ⟨before, t, after, hd, hf, rfl⟩
      obtain ⟨a, rest, rfl, hrest⟩ := runs_ask_iff.mp hd
      exact .ask q _ a ((ih a).mpr ⟨rest, t, after, hrest, hf, rfl⟩)

/-- The same for a question with something after it. -/
theorem runs_question_bind_iff {q : Q} {f : A q → Dialogue A T} {events : List (Event A)} {v : T} :
    ((question q).bind f).Runs events v ↔ ∃ a rest, events = ⟨q, a⟩ :: rest ∧ (f a).Runs rest v :=
  runs_ask_iff

/-- An attempt after another one is not made if the first finds a fault. -/
theorem runs_attempt_iff {E : Type} {x : ExceptT E (Dialogue A) T}
    {f : T → ExceptT E (Dialogue A) U} {events : List (Event A)} {result : Except E U} :
    (x >>= f).run.Runs events result ↔
      (∃ fault, x.run.Runs events (.error fault) ∧ result = .error fault) ∨
        ∃ before value after, x.run.Runs before (.ok value) ∧ (f value).run.Runs after result ∧
          events = before ++ after := by
  rw [ExceptT.run_bind, bind_def, runs_bind_iff]
  constructor
  · rintro ⟨before, value, after, hx, hf, rfl⟩
    cases value with
    | error fault =>
      obtain ⟨rfl, rfl⟩ := runs_done_iff.mp hf
      rw [List.append_nil]
      exact Or.inl ⟨fault, hx, rfl⟩
    | ok value => exact Or.inr ⟨before, value, after, hx, hf, rfl⟩
  · rintro (⟨fault, hx, rfl⟩ | ⟨before, value, after, hx, hf, rfl⟩)
    · exact ⟨events, .error fault, [], hx, .done _, (List.append_nil events).symm⟩
    · exact ⟨before, .ok value, after, hx, hf, rfl⟩

/-- The events of a run say where it ends, whatever comes after them. -/
theorem Runs.unique_of_append {d : Dialogue A T} {events events' rest rest' : List (Event A)}
    {v v' : T} (h : d.Runs events v) (h' : d.Runs events' v')
    (heq : events ++ rest = events' ++ rest') : events = events' ∧ v = v' := by
  induction h generalizing events' with
  | done value =>
    obtain ⟨rfl, rfl⟩ := runs_done_iff.mp h'
    exact ⟨rfl, rfl⟩
  | ask q next a _ ih =>
    obtain ⟨a', events', rfl, hrest⟩ := runs_ask_iff.mp h'
    -- The same question got the same answer in both runs.
    obtain ⟨hevent, hevents⟩ := List.cons.inj heq
    obtain rfl : a = a' := by simpa using hevent
    obtain ⟨rfl, rfl⟩ := ih hrest hevents
    exact ⟨rfl, rfl⟩

/-! ## Questions -/

/-- Whatever the answers, all questions have a property. -/
def Asks (P : Q → Prop) (d : Dialogue A T) : Prop :=
  ∀ ⦃events v⦄, d.Runs events v → ∀ e ∈ events, P e.question

namespace Asks

variable {P : Q → Prop}

/-- A dialogue that is done asks nothing. -/
theorem done (value : T) : (done value : Dialogue A T).Asks P := by
  intro events v hrun
  obtain ⟨rfl, -⟩ := runs_done_iff.mp hrun
  exact nofun

/-- Dialogues one after the other ask what both ask. -/
theorem bind {d : Dialogue A T} {f : T → Dialogue A U} (hd : d.Asks P) (hf : ∀ t, (f t).Asks P) :
    (d.bind f).Asks P := by
  intro events v hrun e he
  obtain ⟨before, t, after, hbefore, hafter, rfl⟩ := runs_bind_iff.mp hrun
  obtain he | he := List.mem_append.mp he
  · exact hd hbefore e he
  · exact hf t hafter e he

/-- What two attempts ask, one asks after the other. -/
theorem attempt {E : Type} {x : ExceptT E (Dialogue A) T} {f : T → ExceptT E (Dialogue A) U}
    (hx : x.run.Asks P) (hf : ∀ t, (f t).run.Asks P) : (x >>= f).run.Asks P := by
  intro events v hrun e he
  obtain ⟨fault, hfault, -⟩ | ⟨before, t, after, hbefore, hafter, rfl⟩ := runs_attempt_iff.mp hrun
  · exact hx hfault e he
  · obtain he | he := List.mem_append.mp he
    · exact hx hbefore e he
    · exact hf t hafter e he

/-- What is asked has every property that follows. -/
theorem imp {P' : Q → Prop} {d : Dialogue A T} (h : ∀ q, P q → P' q) (hd : d.Asks P) :
    d.Asks P' :=
  fun _ _ hrun e he => h _ (hd hrun e he)

/-- A question asks itself. -/
theorem question {q : Q} (hq : P q) : (question q : Dialogue A (A q)).Asks P := by
  intro events v hrun
  obtain ⟨a, rest, rfl, hrest⟩ := runs_ask_iff.mp hrun
  obtain ⟨rfl, -⟩ := runs_done_iff.mp hrest
  exact List.forall_mem_singleton.mpr hq

end Asks

/-! ## Surroundings -/

/-- The questions that surroundings are asked, with their answers. -/
def transcript (surroundings : (q : Q) → S → A q × S) : Dialogue A T → S → List (Event A)
  | done _, _ => []
  | ask q next, s =>
    let (a, s) := surroundings q s
    ⟨q, a⟩ :: (next a).transcript surroundings s

/-- The transcript of a dialogue in some surroundings is a run. -/
theorem runs_transcript (surroundings : (q : Q) → S → A q × S) (d : Dialogue A T) (s : S) :
    d.Runs (d.transcript surroundings s) (d.answer surroundings s).1 := by
  induction d generalizing s with
  | done value => exact .done value
  | ask q next ih => exact .ask q next _ (ih _ _)

/-- What holds of each question with the answer of the surroundings holds of a transcript. -/
theorem forall_mem_transcript {surroundings : (q : Q) → S → A q × S} {P : Event A → Prop}
    (h : ∀ q s, P ⟨q, (surroundings q s).1⟩) (d : Dialogue A T) (s : S) :
    ∀ event ∈ d.transcript surroundings s, P event := by
  induction d generalizing s with
  | done value => exact fun _ hevent => absurd hevent List.not_mem_nil
  | ask q next ih => exact List.forall_mem_cons.mpr ⟨h q s, ih _ _⟩

end ShaderConformance.Dialogue
