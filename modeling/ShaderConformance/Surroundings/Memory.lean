import ShaderConformance.Surroundings.Basic
import ShaderConformance.Surroundings.Compiler
import ShaderConformance.Surroundings.Storage

/-!
# A backend in memory

It keeps the bytes of every resource.  A draw fills the first render target with the
front of the uniform buffer, and a dispatch writes its group counts over the first
unordered access view, so that tests can see what reached the backend.  A script
names the calls that fail.
-/

namespace ShaderConformance.Memory

/-- The calls that fail, each counted from zero among the calls of its kind. -/
structure Script where
  createUnsupported : Nat → Bool
  createFailed : Nat → Bool
  clear : Nat → Bool
  draw : Nat → Bool
  dispatch : Nat → Bool
  copy : Nat → Bool
  readback : Nat → Bool

/-- How often each kind of call was made. -/
structure Counters where
  createUnsupported : Nat
  createFailed : Nat
  clear : Nat
  draw : Nat
  dispatch : Nat
  copy : Nat
  readback : Nat

/-- The state of the backend. -/
structure State where
  counters : Counters
  nextHandle : Nat
  storages : Storages

def State.fresh : State := ⟨⟨0, 0, 0, 0, 0, 0, 0⟩, 0, []⟩

/-- The most bytes that a resource may have. -/
def sizeLimit : Nat := Nat.pow 2 23

/-- The bytes of a described resource. -/
def sizeOf (d : ResourceDesc) : Nat :=
  if d.type = .vertexBuffer then d.width.toNat
  else d.width.toNat * d.height.toNat * d.depth.toNat * d.layerCount.toNat * d.texelSize.toNat

namespace State

/-- Creates a resource whose size is allowed. -/
def store (s : State) (desc : ResourceDesc) (data : List UInt8) :
    Except BackendError Nat × State :=
  if sizeLimit < sizeOf desc then (.error (.failed "too large"), s)
  else
    let storage : Storage := ⟨s.nextHandle, desc, overFront data (zeros (sizeOf desc))⟩
    (.ok s.nextHandle,
      { s with nextHandle := s.nextHandle + 1, storages := s.storages ++ [storage] })

def create (script : Script) (s : State) (desc : ResourceDesc) (data : List UInt8) :
    Except BackendError Nat × State :=
  let call := s.counters.createUnsupported
  let s := { s with counters := { s.counters with createUnsupported := call + 1 } }
  if script.createUnsupported call then (.error (.unsupported "mock"), s)
  else
    let call := s.counters.createFailed
    let s := { s with counters := { s.counters with createFailed := call + 1 } }
    if script.createFailed call then (.error (.failed "mock"), s) else s.store desc data

def destroy (s : State) (handle : Nat) : State :=
  { s with storages := s.storages.remove handle }

def clear (script : Script) (s : State) (resource : Resource Nat) (value : ClearValue) :
    Bool × State :=
  let call := s.counters.clear
  let s := { s with counters := { s.counters with clear := call + 1 } }
  if script.clear call then (false, s)
  else
    match value.pattern? resource.desc.format with
    | some pattern => (true, { s with storages := s.storages.fill resource.handle pattern })
    | none => (false, s)

/-- Fills the first render target with the front of the uniform buffer. -/
def paint (s : State) (render : RenderState Nat) : State :=
  match render.registry.get? ⟨.renderTarget, 0⟩ with
  | none => s
  | some target =>
    let size := target.desc.texelSize.toNat
    if 0 < size ∧ size ≤ render.uniforms.length then
      { s with storages := s.storages.fill target.handle (render.uniforms.take size) }
    else s

def draw (script : Script) (s : State) (render : RenderState Nat) : Bool × State :=
  let call := s.counters.draw
  let s := { s with counters := { s.counters with draw := call + 1 } }
  if script.draw call then (false, s) else (true, s.paint render)

def dispatch (script : Script) (s : State) (render : RenderState Nat) (x y z : UInt32) :
    Bool × State :=
  let call := s.counters.dispatch
  let s := { s with counters := { s.counters with dispatch := call + 1 } }
  if script.dispatch call then (false, s)
  else
    match render.registry.get? ⟨.uav, 0⟩ with
    | none => (true, s)
    | some target =>
      let counts := [x, y, z].flatMap wordBytes
      (true, { s with storages := s.storages.modify target.handle (overFront counts) })

def copy (script : Script) (s : State) (source target : Resource Nat) : Bool × State :=
  let call := s.counters.copy
  let s := { s with counters := { s.counters with copy := call + 1 } }
  if script.copy call then (false, s)
  else
    match s.storages.copy? source.handle target.handle with
    | some storages => (true, { s with storages })
    | none => (false, s)

/-- One of the equal slices of a resource, one for each layer. -/
def slice (storage : Storage) (layer : Nat) : ByteArray :=
  let size := storage.data.size / storage.desc.layerCount.toNat
  storage.data.extract (layer * size) (layer * size + size)

def readback (script : Script) (s : State) (resource : Resource Nat) (subresource : UInt32) :
    Except ArithmeticError (Option Readback) × State :=
  let call := s.counters.readback
  let s := { s with counters := { s.counters with readback := call + 1 } }
  if script.readback call then (.ok none, s)
  else
    match s.storages.at? resource.handle with
    | none => (.ok none, s)
    | some storage =>
      let d := storage.desc
      let texelSize := d.texelSize.toNat
      let data := slice storage (subresource.toNat / d.levelCount.toNat)
      (.ok (some { format := d.format, width := d.width, height := d.height, depth := d.depth
                   rowPitch := d.width.toNat * texelSize, texelSize, data }), s)

end State

/-- The backend in memory with a scripted compiler; the log is not kept. -/
def surroundings (script : Script) (compiler : CompilerScript) : Surroundings State Nat :=
  fun q s =>
    match q with
    | .create desc data => s.create script desc data
    | .destroy resource => ((), s.destroy resource.handle)
    | .clear resource value => s.clear script resource value
    | .draw state _ _ _ => s.draw script state
    | .dispatch state x y z => s.dispatch script state x y z
    | .copy source target => s.copy script source target
    | .readback resource subresource => s.readback script resource subresource
    | .compile source type model _ => (compiler.compile source type model, s)
    | .preprocess text => (compiler.preprocess text, s)
    | .log _ => ((), s)

end ShaderConformance.Memory
