import ShaderConformance.Gpu.Backend
import ShaderConformance.Gpu.Opening
import ShaderConformance.Gpu.Simulated.Device
import ShaderConformance.Surroundings.Basic
import ShaderConformance.Surroundings.Compiler

/-!
# The graphics backend as surroundings

Runs on a graphics device, which is given by the answers to its calls.  All that a run
and its backend do is kept as a list of events.
-/

namespace ShaderConformance.Gpu

/-- Something that happened: a call of the device with its answer, or a request of a run
    that did not go to the device. -/
inductive Event where
  | call (c : Call) (answer : c.Answer)
  | request (q : Request Handle)

/-- The log entry that an event is, if it is one. -/
def Event.entry? : Event → Option LogEntry
  | call (.report entry) _ => some entry
  | request (.log entry) => some entry
  | _ => none

/-- A device with what has happened, the last event first. -/
structure World (S : Type) where
  device : S
  events : List Event

/-- The answers of a device, kept as events. -/
def kept {S : Type} (answers : (c : Call) → S → c.Answer × S) :
    (c : Call) → World S → c.Answer × World S :=
  fun c w =>
    let (a, device) := answers c w.device
    (a, ⟨device, .call c a :: w.events⟩)

/-- A compiler with a state. -/
structure CompilerOn (S : Type) where
  compile : ShaderSource → ShaderType → ShaderModel → CompileOptions → S →
    Except CompileError CompiledShader × S
  preprocess : Text → S → Except CompileError Text × S

/-- A compiler that follows a script. -/
def CompilerOn.scripted {S : Type} (script : CompilerScript) : CompilerOn S where
  compile source type model _ s := (script.compile source type model, s)
  preprocess text s := (script.preprocess text, s)

/-- The backend on a device, with a compiler. -/
def surroundings {S : Type} (answers : (c : Call) → S → c.Answer × S) (device : Device)
    (compiler : CompilerOn (World S)) : Surroundings (World S) Handle :=
  let run {T : Type} (p : Program T) (w : World S) : T × World S := p.answer (kept answers) w
  let note (q : Request Handle) (w : World S) : World S :=
    { w with events := .request q :: w.events }
  fun q w =>
    match q with
    | .create desc data => run (create device desc data) w
    | .destroy resource => run (destroy resource.handle) w
    | .clear resource value => run (clear device resource.handle value) w
    | .draw state topology vertices instances =>
      run (draw device state topology vertices instances) w
    | .dispatch state x y z => run (dispatch device state x y z) w
    | .copy source target => run (copy source target) w
    | .readback resource subresource => run (readback resource subresource) w
    | .compile source type model options =>
      compiler.compile source type model options (note (.compile source type model options) w)
    | .preprocess text => compiler.preprocess text (note (.preprocess text) w)
    | .log entry => ((), note (.log entry) w)

end ShaderConformance.Gpu
