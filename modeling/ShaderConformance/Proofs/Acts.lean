import ShaderConformance.Proofs.BlockCourse

/-!
# Acts of a run

Between the moves of a run stand the turns that it takes and the commands that use
resources.  A draw or dispatch is one act together with the turn to its line, so that an
act either renders as its line says or is a quad that was given up.

## Main definitions

- `Session.IsReady`: nothing keeps a test line from being executed
- `Act`: a move, a turn, or a command
- `Progress`: some acts, whatever turn they start at
- `turnOf`: the last turn among some events
-/

namespace ShaderConformance

/-- Whether a command draws or dispatches. -/
def Command.renders : Command → Bool
  | .dispatch _ _ _ | .draw _ _ _ | .drawQuad => true
  | _ => false

namespace Session

variable {H : Type}

/-- Whether a stage has no source or the result of compiling it for the lowest model. -/
def IsFresh (s : Session H) (type : ShaderType) : Prop :=
  (s.stage type).isStale s.minimumModel = false

/-- Nothing keeps a test line from being executed: no last creation failed, and every stored
    source was compiled for the lowest model without failing. -/
structure IsReady (s : Session H) : Prop where
  created : s.registry.hasFailures = false
  compiled : s.hasFailedShader = false
  fresh : ∀ type, s.IsFresh type

end Session

namespace RunState

variable {H : Type}

/-- The state without live resources. -/
def emptied (s : RunState H) : RunState H := s.withRegistry ({ · with resources := [] })

/-- The destruction of all live resources. -/
def teardownEvents (s : RunState H) : List (Event H) :=
  s.session.registry.resources.map fun resource => s.emptied.asked (.destroy resource) ()

end RunState

section Acts

variable {H : Type} (context : RunContext)

/-- Something that a run does at a turn, and the turn that it comes to. -/
inductive Act : Option Turn × RunState H → List (Event H) → Option Turn × RunState H → Prop
  | move {turn : Option Turn} {s t : RunState H} {events : List (Event H)}
      (h : Move context turn s events t) : Act (turn, s) events (turn, t)
  | close (turn : Option Turn) (s : RunState H) (block : Block) (line : Nat) :
      Act (turn, s) [s.noted (.turn (.close block line))] (some (.close block line), s)
  | read (turn : Option Turn) (s : RunState H) (line : Nat) (test : TestLine)
      (haction : s.session.action = .run) :
      Act (turn, s) [s.noted (.turn (.read line test))] (some (.read line test), s)
  /-- The execution of a command that does not render begins. -/
  | execute (s : RunState H) {line : Nat} {test : TestLine} (hready : s.session.IsReady)
      (haction : s.session.action = .run) (hcommand : test.command.renders = false) :
      Act (some (.read line test), s) [s.noted (.turn (.execute line test))]
        (some (.execute line test), s)
  | clear (s : RunState H) {line : Nat} {test : TestLine} (hready : s.session.IsReady)
      (haction : s.session.action = .run) {resource : Resource H}
      (hlive : resource ∈ s.session.registry.resources) (value : ClearValue) (ok : Bool) :
      Act (some (.execute line test), s) [s.asked (.clear resource value) ok]
        (some (.execute line test), s)
  | copy (s : RunState H) {line : Nat} {test : TestLine} (hready : s.session.IsReady)
      (haction : s.session.action = .run) {source target : Resource H}
      (hsource : source ∈ s.session.registry.resources)
      (htarget : target ∈ s.session.registry.resources) (ok : Bool) :
      Act (some (.execute line test), s) [s.asked (.copy source target) ok]
        (some (.execute line test), s)
  | readback (s : RunState H) {line : Nat} {test : TestLine} (hready : s.session.IsReady)
      (haction : s.session.action = .run) (hcommand : test.command.isProbe = true)
      (hrendered : s.session.lastRenderFailed = false) {resource : Resource H}
      (hlive : resource ∈ s.session.registry.resources) (subresource : UInt32)
      (result : Except ArithmeticError (Option Readback)) :
      Act (some (.execute line test), s) [s.asked (.readback resource subresource) result]
        (some (.execute line test), s)
  | dispatch (s : RunState H) {line : Nat} {test : TestLine} {x y z : UInt32}
      (hready : s.session.IsReady) (haction : s.session.action = .run)
      (hcommand : test.command = .dispatch x y z) (ok : Bool) :
      Act (some (.read line test), s)
        [s.noted (.turn (.execute line test)), s.asked (.dispatch s.session.renderState x y z) ok]
        (some (.execute line test), s.update ({ · with lastRenderFailed := !ok }))
  | draw (s : RunState H) {line : Nat} {test : TestLine} {topology : Topology}
      {vertices instances : UInt32} (hready : s.session.IsReady)
      (haction : s.session.action = .run)
      (hcommand : test.command = .draw topology vertices instances) (ok : Bool) :
      Act (some (.read line test), s)
        [s.noted (.turn (.execute line test)),
          s.asked (.draw s.session.renderState topology vertices instances) ok]
        (some (.execute line test), s.update ({ · with lastRenderFailed := !ok }))
  /-- A quad for which everything was made. -/
  | quad {s t : RunState H} {events : List (Event H)} {line : Nat} {test : TestLine}
      (hready : s.session.IsReady) (haction : s.session.action = .run)
      (hcommand : test.command = .drawQuad)
      (hmade : Course context (some (.execute line test)) s events t)
      (hready' : t.session.IsReady) (haction' : t.session.action = .run) (ok : Bool) :
      Act (some (.read line test), s)
        (s.noted (.turn (.execute line test)) ::
          (events ++ [t.asked (.draw t.session.renderState .triangleList 3 1) ok]))
        (some (.execute line test), t.update ({ · with lastRenderFailed := !ok }))
  /-- A quad that lacks a part. -/
  | quadGivenUp {s t : RunState H} {events : List (Event H)} {line : Nat} {test : TestLine}
      (hready : s.session.IsReady) (haction : s.session.action = .run)
      (hcommand : test.command = .drawQuad)
      (hmade : Course context (some (.execute line test)) s events t) :
      Act (some (.read line test), s) (s.noted (.turn (.execute line test)) :: events)
        (some (.execute line test), t)
  | teardown (turn : Option Turn) (s : RunState H) :
      Act (turn, s) s.teardownEvents (turn, s.emptied)

/-- Some acts that come back to the turn that they start at. -/
abbrev ActsAt (turn : Option Turn) (s : RunState H) (events : List (Event H)) (t : RunState H) :
    Prop :=
  Chain (Act context) (turn, s) events (turn, t)

/-- Some acts, whatever turn they start at. -/
def Progress (s : RunState H) (events : List (Event H)) (t : RunState H) : Prop :=
  ∀ turn, ∃ turn', Chain (Act context) (turn, s) events (turn', t)

end Acts

section Acts

variable {H : Type} {context : RunContext} {turn : Option Turn} {s t u : RunState H}
  {events events' : List (Event H)}

/-- What a turn does on its course are acts of it. -/
theorem actsAt_of_course (h : Course context turn s events t) : ActsAt context turn s events t := by
  -- Moves are acts that take no turn.
  induction h with
  | refl s => exact .refl _
  | step first _ ih => exact .step (.move first) ih

theorem Progress.refl (s : RunState H) : Progress context s [] s := fun turn => ⟨turn, .refl _⟩

theorem Progress.trans (h : Progress context s events t) (h' : Progress context t events' u) :
    Progress context s (events ++ events') u := by
  -- The second part starts at the turn that the first one comes to.
  intro turn
  obtain ⟨turn', hchain⟩ := h turn
  obtain ⟨turn'', hchain'⟩ := h' turn'
  exact ⟨turn'', hchain.trans hchain'⟩

/-- Moves that are made at any turn. -/
theorem Progress.of_move (h : ∀ turn, Move context turn s events t) : Progress context s events t :=
  fun turn => ⟨turn, .single (.move (h turn))⟩

end Acts

/-! ## Turns in events -/

section Turns

variable {H : Type}

/-- The turn that is taken at an event. -/
def Event.turn? : Event H → Option Turn
  | ⟨⟨_, .note (.turn turn)⟩, _⟩ => some turn
  | _ => none

/-- What a run last turned to. -/
def turnOf (events : List (Event H)) : Option Turn := (events.filterMap Event.turn?).getLast?

/-- An event that begins a turn makes it the current one. -/
theorem turnOf_concat_turn {event : Event H} {turn : Turn} (h : event.turn? = some turn)
    (events : List (Event H)) : turnOf (events ++ [event]) = some turn := by
  rw [turnOf, List.filterMap_append, List.filterMap_cons_some h, List.filterMap_nil,
    List.getLast?_concat]

/-- Any other event leaves the turn as it is. -/
theorem turnOf_concat_of_none {event : Event H} (h : event.turn? = none)
    (events : List (Event H)) : turnOf (events ++ [event]) = turnOf events := by
  rw [turnOf, List.filterMap_append, List.filterMap_cons_none h, List.filterMap_nil,
    List.append_nil]
  rfl

end Turns

end ShaderConformance
