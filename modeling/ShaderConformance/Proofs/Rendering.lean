import ShaderConformance.Proofs.FileActs

/-!
# What a probe sees was rendered

A probe compares what the last draw or dispatch left, so it is not reported after one that
failed.  The session remembers how the backend last answered; this file relates that to
the commands that were executed.

## Main definitions

- `lastRendering`: the last command that was to draw or dispatch, and what the backend
  answered since
- `RenderTracked`: the session remembers how the backend last answered

## Main statements

- `reportsRendered_of_runs`: when a probe is reported, the last command to render succeeded,
  or was a quad that was given up
-/

namespace ShaderConformance

variable {H : Type}

/-- A command that was to draw or dispatch, and what the backend answered since. -/
structure Rendering where
  command : Command
  answers : List Bool

namespace Event

/-- How the backend answers a draw or dispatch. -/
def answer? : Event H → Option Bool
  | ⟨⟨_, .request (.draw _ _ _ _)⟩, ok⟩ => some ok
  | ⟨⟨_, .request (.dispatch _ _ _ _)⟩, ok⟩ => some ok
  | _ => none

/-- Whether a resource is read back or a check is recorded. -/
def isReport : Event H → Bool
  | ⟨⟨_, .request (.readback _ _)⟩, _⟩ => true
  | ⟨⟨_, .note (.check _)⟩, _⟩ => true
  | _ => false

/-- An event that says nothing of turns, renderings or probes. -/
def IsAside (event : Event H) : Prop :=
  event.turn? = none ∧ event.answer? = none ∧ event.isReport = false

/-- The last rendering after an event. -/
def rendering (event : Event H) (last : Option Rendering) : Option Rendering :=
  match event.turn?, event.answer? with
  | some (.execute _ test), _ =>
    if test.command.renders then some ⟨test.command, []⟩ else last
  | some _, _ => last
  | none, some ok => last.map fun r => { r with answers := r.answers ++ [ok] }
  | none, none => last

end Event

/-- How the backend answered the last draw or dispatch. -/
def lastAnswer (events : List (Event H)) : Option Bool :=
  (events.filterMap Event.answer?).getLast?

/-- The last command that was to draw or dispatch, and what the backend answered since. -/
def lastRendering (events : List (Event H)) : Option Rendering :=
  events.foldl (fun last event => event.rendering last) none

/-- When a probe reads back or records a check, the last command that was to draw or dispatch
    made the backend do so, with success; or it was a quad that was given up, and the last
    answer of the backend was no failure. -/
def ReportsRendered (before : List (Event H)) (event : Event H) : Prop :=
  event.isReport = true → (turnOf before).any Turn.isProbe = true →
    ∀ rendering, lastRendering before = some rendering →
      rendering.answers = [true] ∨
        rendering.command = .drawQuad ∧ rendering.answers = [] ∧ lastAnswer before ≠ some false

/-! ## What a session remembers -/

/-- The backend answered the last command to render once, unless that was a quad that was
    given up. -/
def Settled (last : Option Rendering) (answer : Option Bool) : Prop :=
  ∀ rendering, last = some rendering →
    (∃ ok, rendering.answers = [ok] ∧ answer = some ok) ∨
      rendering.command = .drawQuad ∧ rendering.answers = []

/-- The backend is still to answer a command. -/
def Awaited (command : Command) (last : Option Rendering) (_ : Option Bool) : Prop :=
  last = some ⟨command, []⟩

/-- A session remembers whether the last draw or dispatch failed, and `K` holds of the last
    command to render. -/
structure RenderTracked (K : Option Rendering → Option Bool → Prop) (turn : Option Turn)
    (history : List (Event H)) (s : Session H) : Prop where
  turn_eq : turnOf history = turn
  flag : s.lastRenderFailed = true ↔ lastAnswer history = some false
  render : K (lastRendering history) (lastAnswer history)
  reports : Throughout ReportsRendered history

namespace RenderTracked

variable {K : Option Rendering → Option Bool → Prop} {turn : Option Turn}
  {history events : List (Event H)} {event : Event H} {s s' : Session H}

/-- What a probe reports was rendered unless the session remembers a failure. -/
theorem reportsRendered (h : RenderTracked Settled turn history s)
    (hrendered : turn.any Turn.isProbe = true → s.lastRenderFailed = false) (event : Event H) :
    ReportsRendered history event := by
  intro _ hprobe rendering hrendering
  rw [h.turn_eq] at hprobe
  -- The session remembers no failure, so the last answer was none.
  have hanswer : lastAnswer history ≠ some false := by
    rw [Ne, ← h.flag, hrendered hprobe]
    exact Bool.false_ne_true
  obtain ⟨ok, hanswers, hlast⟩ | ⟨hquad, hnone⟩ := h.render rendering hrendering
  · cases ok with
    | true => exact .inl hanswers
    | false => exact absurd hlast hanswer
  · -- The last command was given up, and its flag is that of an earlier one.
    exact .inr ⟨hquad, hnone, hanswer⟩

/-- What is known of a render that goes on settles it. -/
theorem settled (h : RenderTracked K turn history s)
    (hK : ∀ {last answer}, K last answer → Settled last answer) :
    RenderTracked Settled turn history s :=
  ⟨h.turn_eq, h.flag, hK h.render, h.reports⟩

/-- An event without a turn or an answer of the backend to a draw or dispatch. -/
theorem aside (h : RenderTracked K turn history s) (hturn : event.turn? = none)
    (hanswer : event.answer? = none) (hreport : ReportsRendered history event) :
    RenderTracked K turn (history ++ [event]) s := by
  have hlast : lastAnswer (history ++ [event]) = lastAnswer history := by
    simp [lastAnswer, hanswer]
  have hrendering : lastRendering (history ++ [event]) = lastRendering history := by
    rw [lastRendering, List.foldl_append, List.foldl_cons, List.foldl_nil, Event.rendering,
      hturn, hanswer]
    rfl
  refine ⟨(turnOf_concat_of_none hturn history).trans h.turn_eq, ?_, ?_, h.reports.snoc hreport⟩
  · rw [hlast]
    exact h.flag
  · rw [hlast, hrendering]
    exact h.render

/-- Events that say nothing of turns, renderings or probes. -/
theorem asides (h : RenderTracked K turn history s) (hevents : ∀ event ∈ events, event.IsAside) :
    RenderTracked K turn (history ++ events) s := by
  refine holds_append (J := (RenderTracked K turn · s)) h fun history h event hevent => ?_
  obtain ⟨hturn, hanswer, hreport⟩ := hevents event hevent
  refine h.aside hturn hanswer fun htrue => ?_
  rw [hreport] at htrue
  cases htrue

/-- Only the memory of the last answer matters. -/
theorem of_eq (h : RenderTracked K turn history s)
    (hflag : s'.lastRenderFailed = s.lastRenderFailed) : RenderTracked K turn history s' := by
  refine ⟨h.turn_eq, ?_, h.render, h.reports⟩
  rw [hflag]
  exact h.flag

/-- A turn, after which `K'` holds of the last command to render. -/
theorem turnTo {K' : Option Rendering → Option Bool → Prop} (h : RenderTracked K turn history s)
    {turn' : Turn} (hturn : event.turn? = some turn') (hanswer : event.answer? = none)
    (hreport : event.isReport = false)
    (hK : K' (event.rendering (lastRendering history)) (lastAnswer history)) :
    RenderTracked K' (some turn') (history ++ [event]) s := by
  have hlast : lastAnswer (history ++ [event]) = lastAnswer history := by
    simp [lastAnswer, hanswer]
  refine ⟨turnOf_concat_turn hturn history, ?_, ?_, h.reports.snoc fun htrue => ?_⟩
  · rw [hlast]
    exact h.flag
  · rw [hlast, lastRendering, List.foldl_append]
    exact hK
  · rw [hreport] at htrue
    cases htrue

/-- The answer to the last command to render. -/
theorem answer {command : Command} (h : RenderTracked (Awaited command) turn history s)
    {ok : Bool} (hturn : event.turn? = none) (hanswer : event.answer? = some ok)
    (hreport : event.isReport = false) (hflag : s'.lastRenderFailed = !ok) :
    RenderTracked Settled turn (history ++ [event]) s' := by
  have hlast : lastAnswer (history ++ [event]) = some ok := by
    simp [lastAnswer, hanswer]
  refine ⟨(turnOf_concat_of_none hturn history).trans h.turn_eq, ?_, ?_,
    h.reports.snoc fun htrue => ?_⟩
  · rw [hlast, hflag]
    cases ok <;> simp
  · -- The command was still to be answered, so this is its one answer.
    have hrendering : lastRendering (history ++ [event]) = some ⟨command, [ok]⟩ := by
      rw [lastRendering, List.foldl_append, List.foldl_cons, List.foldl_nil, ← lastRendering,
        h.render, Event.rendering, hturn, hanswer]
      rfl
    rw [hlast, hrendering]
    rintro rendering hsome
    cases hsome
    exact .inl ⟨ok, rfl, rfl⟩
  · rw [hreport] at htrue
    cases htrue

end RenderTracked

/-! ## Runs remember the last answer -/

section Runs

variable {K : Option Rendering → Option Bool → Prop} {context : RunContext} {turn : Option Turn}
  {events : List (Event H)}

/-- A remark is no render. -/
theorem renderTracked_remark (hK : ∀ {last answer}, K last answer → Settled last answer) :
    Keeps (fun history s => RenderTracked K turn history s.session) (Remark (H := H) turn) := by
  intro s events t h history htracked
  cases h with
  | log | skip => exact htracked.aside rfl rfl fun hreport => by cases hreport
  | check c hprobe =>
    exact htracked.aside rfl rfl ((htracked.settled hK).reportsRendered hprobe _)

/-- A move renders once at most. -/
theorem renderTracked_move (hK : ∀ {last answer}, K last answer → Settled last answer) :
    Keeps (fun history s => RenderTracked K turn history s.session)
      (Move (H := H) context turn) := by
  intro s events t h history htracked
  cases h with
  | remark h => exact renderTracked_remark hK h history htracked
  | settings | sampler | require | halt | resume =>
    rw [List.append_nil]
    exact htracked.of_eq rfl
  | store | variant | preprocessed | notCreated | quad =>
    -- One or two requests and notes of other kinds.
    refine (htracked.asides fun event hevent => ?_).of_eq rfl
    simp only [List.mem_cons, List.not_mem_nil, or_false] at hevent
    obtain rfl | rfl := hevent <;> exact ⟨rfl, rfl, rfl⟩
  | @refuse t reports header text line hturn haccepts hreport reason =>
    have hstore : RenderTracked K turn
        (history ++ [s.noted (.store header.type ⟨text, header.format⟩)]) s.session :=
      htracked.aside rfl rfl fun hreport => by cases hreport
    rw [List.append_cons]
    exact ((renderTracked_remark hK).chain hreport _ (hstore.of_eq rfl)).of_eq rfl
  | @compiled t reports type source hturn haction hsource result hreport =>
    have hcompile : RenderTracked K turn (history ++ [s.asked (.compile source type
        s.session.minimumModel s.session.options) result]) s.session :=
      htracked.aside rfl rfl fun hreport => by cases hreport
    rw [List.append_cons]
    exact ((renderTracked_remark hK).chain hreport _ hcompile).of_eq rfl
  | created hturn haction data h =>
    refine (htracked.asides fun event hevent => ?_).of_eq rfl
    obtain rfl | hevent := List.mem_cons.mp hevent
    · exact ⟨rfl, rfl, rfl⟩
    · obtain ⟨old, -, rfl⟩ := List.mem_map.mp hevent
      exact ⟨rfl, rfl, rfl⟩

/-- A command that renders begins a rendering. -/
theorem rendering_execute (s : RunState H) (line : Nat) (test : TestLine)
    (last : Option Rendering) :
    (s.noted (.turn (.execute line test))).rendering last =
      if test.command.renders then some ⟨test.command, []⟩ else last := rfl

/-- The execution of a command to render begins. -/
theorem awaited_of_execute {K : Option Rendering → Option Bool → Prop} {history : List (Event H)}
    {s : RunState H} (h : RenderTracked K turn history s.session) (line : Nat) (test : TestLine)
    (hrenders : test.command.renders = true) :
    RenderTracked (Awaited test.command) (some (.execute line test))
      (history ++ [s.noted (.turn (.execute line test))]) s.session := by
  refine h.turnTo rfl rfl rfl ?_
  rw [rendering_execute, if_pos hrenders]
  rfl

/-- A quad that was not answered may be given up. -/
theorem settled_of_awaited {command : Command} (hquad : command = .drawQuad)
    {last : Option Rendering} {answer : Option Bool} (h : Awaited command last answer) :
    Settled last answer := by
  intro rendering hsome
  rw [h] at hsome
  cases hsome
  exact .inr ⟨hquad, rfl⟩

/-- An act leaves the last rendering settled. -/
theorem renderTracked_act : Keeps (fun history p => RenderTracked Settled p.1 history p.2.session)
    (Act (H := H) context) := by
  rintro p events q h history htracked
  cases h with
  | move h => exact renderTracked_move id h history htracked
  | close turn s block line => exact htracked.turnTo rfl rfl rfl htracked.render
  | read turn s line test haction => exact htracked.turnTo rfl rfl rfl htracked.render
  | @execute s line test hready haction hcommand =>
    -- A command that does not render leaves the last one standing.
    refine htracked.turnTo rfl rfl rfl ?_
    rw [rendering_execute, hcommand]
    exact htracked.render
  | clear | copy =>
    exact htracked.aside rfl rfl fun hreport => by cases hreport
  | readback s hready haction hcommand hrendered =>
    exact htracked.aside rfl rfl (htracked.reportsRendered (fun _ => hrendered) _)
  -- A dispatch or draw is answered right after its turn.
  | @dispatch s line test x y z hready haction hcommand ok =>
    have hawaited := awaited_of_execute htracked line test (by rw [hcommand]; rfl)
    rw [List.append_cons]
    exact hawaited.answer rfl rfl rfl rfl
  | @draw s line test topology vertices instances hready haction hcommand ok =>
    have hawaited := awaited_of_execute htracked line test (by rw [hcommand]; rfl)
    rw [List.append_cons]
    exact hawaited.answer rfl rfl rfl rfl
  | @quad s t made line test hready haction hcommand hmade hready' haction' ok =>
    -- While the parts are made, the quad is still to be answered.
    have hawaited := awaited_of_execute htracked line test (by rw [hcommand]; rfl)
    have hparts := (renderTracked_move (settled_of_awaited hcommand)).chain hmade _ hawaited
    rw [List.append_cons, ← List.append_assoc]
    exact hparts.answer rfl rfl rfl rfl
  | @quadGivenUp s t made line test hready haction hcommand hmade =>
    -- It stays without an answer.
    have hawaited := awaited_of_execute htracked line test (by rw [hcommand]; rfl)
    have hparts := (renderTracked_move (settled_of_awaited hcommand)).chain hmade _ hawaited
    rw [List.append_cons]
    exact hparts.settled (settled_of_awaited hcommand)
  | teardown turn s =>
    refine (htracked.asides fun event hevent => ?_).of_eq rfl
    obtain ⟨resource, -, rfl⟩ := List.mem_map.mp hevent
    exact ⟨rfl, rfl, rfl⟩

/-- At the start nothing was rendered. -/
theorem renderTracked_start (context : RunContext) :
    RenderTracked Settled none [] (RunState.start (H := H) context).session where
  turn_eq := rfl
  flag := iff_of_false Bool.false_ne_true fun hlast => by cases hlast
  render rendering hsome := by cases hsome
  reports := .nil

/-- Whatever a file says and however a backend and a compiler answer, a probe is reported only
    after a draw or dispatch that succeeded, or after none at all.  The exception is a quad
    that was given up: it leaves the answer to an earlier draw or dispatch standing. -/
theorem reportsRendered_of_runs {text : Text} {result : RunResult}
    (h : (runFile H context text).Runs events result) : Throughout ReportsRendered events := by
  refine (finishes_of_runs h).throughout renderTracked_act (renderTracked_start context)
    (fun htracked => htracked.reports) ?_ ?_
  · intro before s desc data handle hreport
    cases hreport
  · intro before s resource hreport
    cases hreport

/-- A file whose quad lacks a target, which is there when the quad is probed. -/
def lateTarget : Text :=
  "[test]\ndraw quad\n[rtv 0]\nsize (2d, 1, 1)\n[test]\nprobe (0, 0) rgba (0, 0, 0, 0)\n".toList

/-- What a run of that file goes through when the first creation fails. -/
def lateTargetEvents : List (Event Nat) :=
  journalEvents ⟨true, true, ⟨0⟩, ⟨0⟩⟩ (some (.failed "")) ⟨"late", .run, .plain⟩ lateTarget

/-- A file whose quad has its render target created late. -/
theorem reportsRendered_lateTarget :
    Throughout ReportsRendered lateTargetEvents ∧
      (lastRendering lateTargetEvents).map (·.answers) = some [] ∧
      lateTargetEvents.countP Event.isReport = 3 :=
  ⟨reportsRendered_of_runs (runs_journalEvents _ _ _ _), by decide +kernel, by decide +kernel⟩

end Runs

end ShaderConformance
