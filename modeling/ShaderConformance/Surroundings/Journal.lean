import ShaderConformance.Surroundings.Basic
import ShaderConformance.Surroundings.Compiler
import ShaderConformance.Surroundings.Storage

/-!
# A backend with a journal

It keeps subresource 0 of every resource, and writes a line for every call.  A draw
fills the first render target with the first sixteen bytes of the uniform buffer.  Its
compiler is decided by masks of models, and remembers what it was asked to compile.
-/

namespace ShaderConformance.Journal

/-- What the backend and its compiler do. -/
structure Script where
  /-- Whether draws succeed. -/
  draws : Bool
  /-- Whether only the first creation fails that is to fail. -/
  failsOnce : Bool
  /-- The models at which compiling fails. -/
  fails : ModelMask
  /-- The models at which nothing is implemented. -/
  notImplemented : ModelMask

/-- What the backend and its compiler have seen. -/
structure State where
  /-- The lines of the journal. -/
  lines : List String
  live : Storages
  nextHandle : Nat
  /-- Why the next creation fails, if it does. -/
  failure : Option BackendError
  /-- What was compiled. -/
  compiled : List (ShaderType × ShaderModel)
  /-- Whether the size of a resource could not be computed.  The backend breaks off there,
      and what it answers afterwards means nothing. -/
  brokeOff : Bool

/-- The state before the first call. -/
def State.fresh (failure : Option BackendError) : State := ⟨[], [], 0, failure, [], false⟩

/-- The bytes of a described resource, each factor of which is a word like the product. -/
def sizeOf (d : ResourceDesc) : Except ArithmeticError UInt32 :=
  if d.isBuffer ∧ d.type = .vertexBuffer then .ok d.width
  else do
    let area ← checkedWord (d.width.toNat * d.height.toNat)
    let texels ← checkedWord (area.toNat * d.depth.toNat)
    checkedWord (texels.toNat * d.texelSize.toNat)

namespace State

/-- Writes a line. -/
def note (s : State) (line : String) : State := { s with lines := s.lines ++ [line] }

/-- The number of lines with a beginning. -/
def count (s : State) (beginning : String) : Nat :=
  s.lines.countP fun line => beginning.toList.isPrefixOf line.toList

/-- Fills what is under a handle. -/
def fill (s : State) (handle : Nat) (pattern : List UInt8) : State :=
  { s with live := s.live.fill handle pattern }

/-- Keeps a resource of a size. -/
def store (s : State) (desc : ResourceDesc) (data : List UInt8) (size : UInt32) : Nat × State :=
  let contents := overFront data (zeros size.toNat)
  (s.nextHandle, { s with
    nextHandle := s.nextHandle + 1
    live := s.live ++ [⟨s.nextHandle, desc, contents⟩] })

def create (script : Script) (s : State) (desc : ResourceDesc) (data : List UInt8) :
    Except BackendError Nat × State :=
  let s := s.note s!"create {desc.ref}"
  match s.failure with
  | some error => (.error error, if script.failsOnce then { s with failure := none } else s)
  | none =>
    match sizeOf desc with
    | .error _ => (.error (.failed "no size"), { s with brokeOff := true })
    | .ok size =>
      let (handle, s) := s.store desc data size
      (.ok handle, s)

def destroy (s : State) (resource : Resource Nat) : State :=
  let s := s.note s!"destroy {resource.ref}"
  { s with live := s.live.remove resource.handle }

def clear (s : State) (resource : Resource Nat) (value : ClearValue) : Bool × State :=
  let s := s.note s!"clear {resource.ref}"
  match value.pattern? resource.desc.format with
  | some pattern => (true, s.fill resource.handle pattern)
  | none => (false, s)

/-- The bytes of the uniform buffer that a draw shows. -/
def shownBytes : Nat := 16

/-- Fills the first render target with the front of the uniform buffer. -/
def paint (s : State) (render : RenderState Nat) : State :=
  match render.registry.get? ⟨.renderTarget, 0⟩ with
  | none => s
  | some target =>
    if shownBytes ≤ render.uniforms.length then
      s.fill target.handle (render.uniforms.take shownBytes)
    else s

def draw (script : Script) (s : State) (render : RenderState Nat) (topology : Topology)
    (vertices instances : UInt32) : Bool × State :=
  let s := s.note s!"draw {topology} {vertices} {instances}"
  if script.draws then (true, s.paint render) else (false, s)

def copy (s : State) (source target : Resource Nat) : Bool × State :=
  let s := s.note s!"copy {source.ref} {target.ref}"
  match s.live.copy? source.handle target.handle with
  | some live => (true, { s with live })
  | none => (false, s)

def readback (s : State) (resource : Resource Nat) (subresource : UInt32) :
    Except ArithmeticError (Option Readback) × State :=
  let s := s.note s!"readback {resource.ref} {subresource}"
  match s.live.at? resource.handle with
  | none => (.ok none, s)
  | some storage =>
    let d := storage.desc
    let contents := (checkedWord (d.width.toNat * d.texelSize.toNat)).map fun pitch =>
      some { format := d.format, width := d.width, height := d.height, depth := d.depth
             rowPitch := pitch.toNat, texelSize := d.texelSize.toNat, data := storage.data }
    (contents, s)

def compile (script : Script) (s : State) (source : ShaderSource) (type : ShaderType)
    (model : ShaderModel) : Except CompileError CompiledShader × State :=
  let s := { s with compiled := s.compiled ++ [(type, model)] }
  if Text.contains source.text "FAIL".toList ∨ script.fails.contains model then
    (.error (.failed s!"{type} rejected at {model}"), s)
  else if script.notImplemented.contains model then (.error (.notImplemented s!"{model}"), s)
  else (.ok ⟨type, model, .wgsl source.text, "main", []⟩, s)

end State

/-- Preprocesses a source, unless it has an error directive. -/
def preprocess (text : Text) : Except CompileError Text :=
  if Text.contains text "#error".toList then .error (.failed "#error directive") else .ok text

/-- The backend with its compiler; log entries are not kept. -/
def surroundings (script : Script) : Surroundings State Nat :=
  fun q s =>
    match q with
    | .create desc data => s.create script desc data
    | .destroy resource => ((), s.destroy resource)
    | .clear resource value => s.clear resource value
    | .draw state topology vertices instances => s.draw script state topology vertices instances
    | .dispatch _ x y z => (true, s.note s!"dispatch {x} {y} {z}")
    | .copy source target => s.copy source target
    | .readback resource subresource => s.readback resource subresource
    | .compile source type model _ => s.compile script source type model
    | .preprocess text => (preprocess text, s)
    | .log _ => ((), s)

end ShaderConformance.Journal
