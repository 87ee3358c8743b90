import ShaderConformance.Capabilities.Profile
import ShaderConformance.CommandLine.Options
import ShaderConformance.Compiler.Basic
import ShaderConformance.Surroundings.CompileOnly
import ShaderConformance.Surroundings.Graphics

/-!
# Execution of the command

The profile is read first, then the backend is opened, its capabilities are restricted
to what can be compiled and overridden by the profile, and each file is run in turn.  A
file that cannot be run does not keep the next ones from running, but a run that breaks off
ends the command.

Main statements:

* `map_file_runAll_prefix` the results are those of the first files, in their order.
* `map_file_runAll` every file has a result if no run breaks off.
-/

namespace ShaderConformance.CommandLine

/-- What the command works with. -/
structure Machine (S : Type) where
  /-- The text of a file, or why it cannot be read. -/
  read : String → Except String Text
  /-- The answers of the external compiler at a path. -/
  tool : String → (q : Compiler.Question) → q.Answer
  /-- The answers of a graphics device. -/
  device : (c : Gpu.Call) → S → c.Answer × S
  /-- What is known of the formats of graphics devices. -/
  formats : Gpu.FormatTraits

/-- Why no file is run. -/
inductive StartError where
  | profileUnreadable (path reason : String)
  /-- The file holds no profile. -/
  | profileMalformed (path : String)
  | profile (e : ProfileError)
  | device (e : Gpu.OpenError)
deriving DecidableEq, Repr

def StartError.message : StartError → String
  | profileUnreadable path reason => s!"{path}: {reason}"
  | profileMalformed path => s!"{path}: no capability profile"
  | profile e => e.message
  | device e => e.message

/-- Why a file has no counters. -/
inductive FileError where
  | unreadable (reason : String)
  | fault (f : LocatedFault)
deriving DecidableEq, Repr

/-- The wording of an error about a file. -/
def FileError.message (file : String) : FileError → String
  | unreadable reason => s!"failed to read {file}: {reason}"
  | fault f => f.message file

/-- What came of a file. -/
structure FileResult where
  file : String
  result : Except FileError Summary

/-- Whether the run of a file broke off. -/
def FileResult.breaksOff (r : FileResult) : Bool :=
  match r.result with
  | .error (.fault f) => f.fault.breaksOff
  | _ => false

/-- What came of the command. -/
structure Outcome where
  /-- The log, in order. -/
  log : List LogEntry
  results : Except StartError (List FileResult)

namespace Machine

variable {S : Type} (m : Machine S)

/-! ## Files -/

/-- Runs a file. -/
def runNamed {T H : Type} (surroundings : Surroundings T H) (mode : RunMode)
    (caps : Capabilities) (file : String) (state : T) : FileResult × T :=
  match m.read file with
  | .error reason => (⟨file, .error (.unreadable reason)⟩, state)
  | .ok text =>
    let (result, state) := runFileWith surroundings ⟨file, mode, caps⟩ text state
    (⟨file, result.mapError .fault⟩, state)

/-- Runs files in turn, until a run breaks off. -/
def runAll {T H : Type} (surroundings : Surroundings T H) (mode : RunMode)
    (caps : Capabilities) : List String → T → List FileResult × T
  | [], state => ([], state)
  | file :: more, state =>
    let (result, state) := m.runNamed surroundings mode caps file state
    if result.breaksOff then ([result], state)
    else
      let (results, state) := runAll surroundings mode caps more state
      (result :: results, state)

/-- A result names the file that it is about. -/
theorem file_runNamed {T H : Type} (surroundings : Surroundings T H) (mode : RunMode)
    (caps : Capabilities) (file : String) (state : T) :
    (m.runNamed surroundings mode caps file state).1.file = file := by
  unfold runNamed
  split <;> rfl

/-- The results are those of the first file and, unless its run breaks off, of the others. -/
theorem results_runAll {T H : Type} (surroundings : Surroundings T H) (mode : RunMode)
    (caps : Capabilities) (file : String) (more : List String) (state : T) :
    (m.runAll surroundings mode caps (file :: more) state).1 =
      let (first, next) := m.runNamed surroundings mode caps file state
      if first.breaksOff then [first]
      else first :: (m.runAll surroundings mode caps more next).1 := by
  rw [runAll]
  dsimp only
  split <;> rfl

/-- The results are those of the first files, in their order. -/
theorem map_file_runAll_prefix {T H : Type} (surroundings : Surroundings T H) (mode : RunMode)
    (caps : Capabilities) (files : List String) (state : T) :
    (m.runAll surroundings mode caps files state).1.map FileResult.file <+: files := by
  induction files generalizing state with
  | nil => exact List.prefix_rfl
  | cons file more ih =>
    have hfile := m.file_runNamed surroundings mode caps file state
    rw [results_runAll]
    dsimp only
    split
    · -- The run of this file broke off.
      simp [hfile]
    · simpa [hfile] using ih _

/-- Every file has a result if no run breaks off. -/
theorem map_file_runAll {T H : Type} (surroundings : Surroundings T H) (mode : RunMode)
    (caps : Capabilities) (files : List String) (state : T)
    (h : ∀ r ∈ (m.runAll surroundings mode caps files state).1, r.breaksOff = false) :
    (m.runAll surroundings mode caps files state).1.map FileResult.file = files := by
  induction files generalizing state with
  | nil => rfl
  | cons file more ih =>
    have hfile := m.file_runNamed surroundings mode caps file state
    rw [results_runAll] at h ⊢
    dsimp only at h ⊢
    split at h
    · rename_i hbreaks
      simp [hbreaks] at h
    · rename_i hgoes
      rw [List.forall_mem_cons] at h
      rw [if_neg hgoes, List.map_cons, hfile, ih _ h.2]

/-! ## Profiles and compilers -/

/-- The profile that options ask for. -/
def profile (o : Options) : Except StartError CapabilityProfile :=
  let read : Except StartError CapabilityProfile :=
    match o.profile? with
    | none => .ok .empty
    | some path =>
      match m.read path with
      | .error reason => .error (.profileUnreadable path reason)
      | .ok text =>
        match CapabilityProfile.read? text with
        | some p => .ok p
        | none => .error (.profileMalformed path)
  read.map fun p => p.within o.minimumModel? o.maximumModel?

/-- The value of what a compiler does with the tool at a path. -/
def compiled {T : Type} (path : String) (p : Compiler.Program T) : T :=
  (p.answer (fun q (_ : Unit) => (m.tool path q, ())) ()).1

/-- The capabilities of a run: those of a backend, restricted to what can be compiled, with
    the overrides of a profile. -/
def allowed (o : Options) (p : CapabilityProfile) (caps : Capabilities) :
    Except StartError Capabilities :=
  (p.apply (m.compiled o.tool (Compiler.restrict caps))).mapError .profile

/-- The compiler with the tool at a path. -/
def compiler {T : Type} (path : String) : Gpu.CompilerOn T where
  compile source type model options s :=
    (m.compiled path (Compiler.compile path source type model options), s)
  preprocess text s := (m.compiled path (Compiler.preprocess path text), s)

/-! ## Modes -/

/-- The capabilities when shaders are only compiled. -/
def compileOnlyCapabilities : Capabilities :=
  { Capabilities.plain with compiler := "naga", sourceFormats := [.hlsl, .wgsl] }

/-- Compiles the shaders of files. -/
def compileFiles (o : Options) (p : CapabilityProfile) : Outcome :=
  match m.allowed o p compileOnlyCapabilities with
  | .error e => ⟨[], .error e⟩
  | .ok caps =>
    let compiler : Gpu.CompilerOn (List LogEntry) := m.compiler o.tool
    let surroundings := CompileOnly.surroundings compiler.compile compiler.preprocess List.cons
    let (results, log) := m.runAll surroundings .compileOnly caps o.files []
    ⟨log.reverse, .ok results⟩

/-- The log of a device, in order. -/
def logOf (w : Gpu.World S) : List LogEntry := w.events.reverse.filterMap Gpu.Event.entry?

/-- Runs files on a graphics device. -/
def runFiles (o : Options) (p : CapabilityProfile) (start : S) : Outcome :=
  let (opened, w) := (Gpu.openDevice m.formats).answer (Gpu.kept m.device) ⟨start, []⟩
  match opened with
  | .error e => ⟨logOf w, .error (.device e)⟩
  | .ok device =>
    match m.allowed o p device.caps with
    | .error e => ⟨logOf w, .error e⟩
    | .ok caps =>
      let surroundings := Gpu.surroundings m.device { device with caps } (m.compiler o.tool)
      let (results, w) := m.runAll surroundings .run caps o.files w
      ⟨logOf w, .ok results⟩

/-- Executes the command. -/
def execute (o : Options) (start : S) : Outcome :=
  match m.profile o with
  | .error e => ⟨[], .error e⟩
  | .ok p => if o.compileOnly then m.compileFiles o p else m.runFiles o p start

end Machine

end ShaderConformance.CommandLine
