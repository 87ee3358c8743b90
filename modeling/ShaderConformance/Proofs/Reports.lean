import ShaderConformance.Proofs.Acts

/-!
# What the events of a run show

The calls that a run makes, the blocks that it ends and the checks that it records are
views of its events.  This file says what they are for the steps that report something.

## Main definitions

- `calls`: what is asked of a backend or a compiler
- `closedBlocks`: the blocks that end
- `checks`: the checks that are recorded

## Main statements

- `runs_log_iff`, `runs_check_iff`, `runs_skip_iff`: the steps that report
-/

namespace ShaderConformance

variable {H : Type}

/-- Whether a request goes to a backend or a compiler; the others go to the log. -/
def Request.isCall : Request H → Bool
  | .log _ => false
  | _ => true

namespace Block

/-- Whether a block is a test block. -/
def isTest : Block → Bool
  | test => true
  | _ => false

/-- Whether a block is a require block. -/
def isRequire : Block → Bool
  | require _ => true
  | _ => false

end Block

namespace Event

/-- Whether something is asked of a backend or a compiler. -/
def isCall : Event H → Bool
  | ⟨⟨_, .request q⟩, _⟩ => q.isCall
  | _ => false

/-- The block that ends at an event. -/
def closed? (event : Event H) : Option Block :=
  match event.turn? with
  | some (.close block _) => some block
  | _ => none

/-- The check that is recorded at an event. -/
def check? : Event H → Option Check
  | ⟨⟨_, .note (.check c)⟩, _⟩ => some c
  | _ => none

end Event

namespace RunState

variable (s : RunState H)

/-- A request is a call or not by itself. -/
@[simp] theorem isCall_asked (q : Request H) (a : q.Answer) : (s.asked q a).isCall = q.isCall := rfl

/-- A note is no call. -/
@[simp] theorem isCall_noted (n : Note) : (s.noted n).isCall = false := rfl

/-- A request ends no block. -/
@[simp] theorem closed?_asked (q : Request H) (a : q.Answer) : (s.asked q a).closed? = none := rfl

/-- A turn to the end of a block ends that block. -/
@[simp] theorem closed?_noted_close (block : Block) (line : Nat) :
    (s.noted (.turn (.close block line))).closed? = some block := rfl

/-- A check ends no block. -/
@[simp] theorem closed?_noted_check (c : Check) : (s.noted (.check c)).closed? = none := rfl

/-- What is skipped ends no block. -/
@[simp] theorem closed?_noted_skip (line : Nat) (reason : String) :
    (s.noted (.skip line reason)).closed? = none := rfl

/-- To store a source ends no block. -/
@[simp] theorem closed?_noted_store (type : ShaderType) (source : ShaderSource) :
    (s.noted (.store type source)).closed? = none := rfl

/-- A request is no check. -/
@[simp] theorem check?_asked (q : Request H) (a : q.Answer) : (s.asked q a).check? = none := rfl

/-- A check is that check. -/
@[simp] theorem check?_noted_check (c : Check) : (s.noted (.check c)).check? = some c := rfl

/-- A turn is no check. -/
@[simp] theorem check?_noted_turn (turn : Turn) : (s.noted (.turn turn)).check? = none := rfl

/-- To store a source is no check. -/
@[simp] theorem check?_noted_store (type : ShaderType) (source : ShaderSource) :
    (s.noted (.store type source)).check? = none := rfl

end RunState

/-- To log is no call. -/
@[simp] theorem Request.isCall_log (entry : LogEntry) :
    (Request.log entry : Request H).isCall = false := rfl

/-! ## Views of events -/

section Views

/-- What is asked of a backend or a compiler. -/
def calls (events : List (Event H)) : List (Event H) := events.filter Event.isCall

/-- The blocks that end. -/
def closedBlocks (events : List (Event H)) : List Block := events.filterMap Event.closed?

/-- The checks that are recorded. -/
def checks (events : List (Event H)) : List Check := events.filterMap Event.check?

variable (event : Event H) (events events' : List (Event H))

@[simp] theorem calls_nil : calls ([] : List (Event H)) = [] := rfl

@[simp] theorem closedBlocks_nil : closedBlocks ([] : List (Event H)) = [] := rfl

@[simp] theorem checks_nil : checks ([] : List (Event H)) = [] := rfl

/-- The first event is a call, or is left out. -/
@[simp] theorem calls_cons :
    calls (event :: events) = if event.isCall then event :: calls events else calls events :=
  List.filter_cons

/-- The first event ends its block, if it ends any. -/
@[simp] theorem closedBlocks_cons :
    closedBlocks (event :: events) = event.closed?.toList ++ closedBlocks events := by
  cases h : event.closed? <;> simp [closedBlocks, h]

/-- The first event is a check, or is left out. -/
@[simp] theorem checks_cons :
    checks (event :: events) = event.check?.toList ++ checks events := by
  cases h : event.check? <;> simp [checks, h]

/-- Calls are in the order of their events. -/
@[simp] theorem calls_append : calls (events ++ events') = calls events ++ calls events' :=
  List.filter_append ..

/-- Nothing is asked by one part of a run after another if neither asks anything. -/
theorem calls_append_eq_nil {events events' : List (Event H)} (h : calls events = [])
    (h' : calls events' = []) : calls (events ++ events') = [] := by
  rw [calls_append, h, h', List.append_nil]

/-- Blocks are in the order in which they end. -/
@[simp] theorem closedBlocks_append :
    closedBlocks (events ++ events') = closedBlocks events ++ closedBlocks events' :=
  List.filterMap_append ..

/-- Checks are in the order of their events. -/
@[simp] theorem checks_append : checks (events ++ events') = checks events ++ checks events' :=
  List.filterMap_append ..

end Views

namespace Step

variable {E : Type} {context : RunContext} {s s' : RunState H} {events : List (Event H)}
  {r : Except E Unit}

/-- To log an entry is one request. -/
theorem runs_entry_iff {entry : LogEntry} :
    (ask (.log entry) : Step H E Unit).Runs s events r s' ↔
      events = [s.asked (.log entry) ()] ∧ r = .ok () ∧ s' = s :=
  runs_ask_iff.trans ⟨fun ⟨_, h⟩ => h, fun h => ⟨(), h⟩⟩

/-- To log a text is one request. -/
theorem runs_log_iff {level : LogLevel} {text : String} :
    (log level text : Step H E Unit).Runs s events r s' ↔
      events = [s.asked (.log ⟨level, .run, text⟩) ()] ∧ r = .ok () ∧ s' = s :=
  runs_entry_iff

/-- A check is noted and counted, and unless it is a plain pass it is logged. -/
theorem runs_check_iff {c : Check} :
    (check context c : Step H E Unit).Runs s events r s' ↔
      events = s.noted (.check c) ::
          (c.entry? context.file).toList.map (fun entry => s.asked (.log entry) ()) ∧
        r = .ok () ∧ s' = { s with summary := s.summary.count c.outcome } := by
  rw [check, runs_note_bind_iff]
  simp only [runs_modify_bind_iff]
  cases c.entry? context.file with
  | none =>
    constructor
    · rintro ⟨rest, rfl, hpure⟩
      obtain ⟨rfl, hr⟩ := runs_pure_iff.mp hpure
      exact ⟨rfl, hr⟩
    · rintro ⟨rfl, hr⟩
      exact ⟨_, rfl, runs_pure_iff.mpr ⟨rfl, hr⟩⟩
  | some entry =>
    constructor
    · rintro ⟨rest, rfl, hlog⟩
      obtain ⟨rfl, hr⟩ := runs_entry_iff.mp hlog
      exact ⟨rfl, hr⟩
    · rintro ⟨rfl, hr⟩
      exact ⟨_, rfl, runs_entry_iff.mpr ⟨rfl, hr⟩⟩

/-- A skipped test is noted, counted and logged. -/
theorem runs_skip_iff {line : Nat} {reason : String} :
    (skip context line reason : Step H E Unit).Runs s events r s' ↔
      events = [s.noted (.skip line reason),
          s.asked (.log (skipEntry context.file line reason)) ()] ∧
        r = .ok () ∧ s' = { s with summary := s.summary.skip } := by
  rw [skip, runs_note_bind_iff]
  simp only [runs_modify_bind_iff]
  constructor
  · rintro ⟨rest, rfl, hlog⟩
    obtain ⟨rfl, hr⟩ := runs_entry_iff.mp hlog
    exact ⟨rfl, hr⟩
  · rintro ⟨rfl, hr⟩
    exact ⟨_, rfl, runs_entry_iff.mpr ⟨rfl, hr⟩⟩

end Step

end ShaderConformance
