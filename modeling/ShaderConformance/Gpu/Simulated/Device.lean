import ShaderConformance.Gpu.Simulated.Contents

/-!
# A simulated device

It numbers objects by one counter, keeps the contents of buffers and textures, and
validates nothing.  Draws and dispatches change nothing; writes act at once, and
commands when they are submitted.  A script says which adapter is found and which error
scopes, polls and mappings fail.
-/

namespace ShaderConformance.Gpu.Simulated

/-- What a simulated device does.  Failures are counted from zero by kind. -/
structure Script where
  adapter : Option Adapter
  /-- Whether no device is created. -/
  deviceFails : Bool
  /-- The error scopes that catch an error. -/
  scopeFails : Nat → Bool
  /-- The polls that fail. -/
  pollFails : Nat → Bool
  /-- The mappings that fail. -/
  mapFails : Nat → Bool
  /-- The polls at which an error comes to light that no scope caught. -/
  uncaptured : Nat → Bool

/-- A texture with contents. -/
structure Image where
  id : Nat
  format : TextureFormat
  levels : List Level

/-- A buffer with contents. -/
structure Store where
  id : Nat
  data : ByteArray

/-- What a view shows. -/
structure Shown where
  id : Nat
  texture : Nat
  layer : UInt32

/-- The state of a simulated device. -/
structure State where
  nextId : Nat
  scopes : Nat
  polls : Nat
  maps : Nat
  images : List Image
  stores : List Store
  views : List Shown
  /-- The buffers that wait to be mapped. -/
  pending : List (Object .buffer)

def State.fresh : State := ⟨0, 0, 0, 0, [], [], [], []⟩

/-- Why there is no adapter. -/
def noAdapter : String :=
  "No suitable graphics adapter found; noop not requested, " ++
  "vulkan drivers/libraries could not be loaded, metal support not compiled in, " ++
  "dx12 support not compiled in, gl not requested, webgpu support not compiled in"

/-- Why a poll fails. -/
def pollTimeout : String :=
  "The requested Wait timed out before the submission was completed."

namespace State

/-! ## Contents -/

/-- Changes the contents of a buffer. -/
def modifyStore (s : State) (buffer : Object .buffer) (f : ByteArray → ByteArray) : State :=
  { s with stores := s.stores.map fun b =>
      if b.id = buffer.id then { b with data := f b.data } else b }

/-- The contents of a buffer, if they are kept. -/
def store? (s : State) (buffer : Object .buffer) : Option ByteArray :=
  (s.stores.find? (·.id = buffer.id)).map Store.data

/-- Changes a level of a texture. -/
def modifyLevel (s : State) (texture level : Nat) (f : TextureFormat → Level → Level) : State :=
  { s with images := s.images.map fun i =>
      if i.id = texture then { i with levels := i.levels.modify level (f i.format) } else i }

/-- The level of a place, if its contents are kept. -/
def level? (s : State) (place : Place) : Option Level := do
  let image ← s.images.find? (·.id = place.texture.id)
  image.levels[place.level.toNat]?

/-- Writes rows of bytes to a place. -/
def writeRows (s : State) (place : Place) (source : ByteArray) (rows : Rows) (size : Extent) :
    State :=
  s.modifyLevel place.texture.id place.level.toNat fun _ l =>
    l.write place.layer.toNat source rows size

/-- Copies the front of a buffer over the front of another one. -/
def copyBuffer (s : State) (source target : Object .buffer) (size : Nat) : State :=
  match s.store? source with
  | some data => s.modifyStore target fun bytes => copySpan data 0 bytes 0 size
  | none => s

/-- Copies texels from place to place. -/
def copyTexture (s : State) (source target : Place) (size : Extent) : State :=
  match s.level? source with
  | some l => s.writeRows target l.data (l.rows source.layer.toNat) size
  | none => s

/-- Copies texels to a buffer. -/
def readTexture (s : State) (source : Place) (target : Object .buffer) (layout : RowLayout)
    (size : Extent) : State :=
  match s.level? source with
  | some l => s.modifyStore target fun bytes =>
      l.read source.layer.toNat bytes (.ofLayout layout) size
  | none => s

/-- Fills the first level of what a view shows, if its format has a texel for that. -/
def fillView (s : State) (view : Object .view) (texel? : TextureFormat → Option (List UInt8)) :
    State :=
  match s.views.find? (·.id = view.id) with
  | none => s
  | some shown => s.modifyLevel shown.texture 0 fun format l =>
    match texel? format with
    | some texel => l.fillLayer shown.layer.toNat texel
    | none => l

/-! ## Commands -/

/-- Begins a pass with a colour attachment. -/
def loadColour (s : State) (a : ColourAttachment) : State :=
  match a.load with
  | .keep => s
  | .clear colour => s.fillView a.view fun format => clearedTexel? format colour

/-- Begins a pass with a depth attachment. -/
def loadDepth (s : State) (a : DepthAttachment) : State :=
  match a.depth with
  | .keep => s
  | .clear depth => s.fillView a.view fun format =>
    if format = .depth32Float then some (wordBytes depth.bits) else none

/-- The effect of a command. -/
def run (s : State) : Command → State
  | .renderPass _ colours depth => depth.toList.foldl loadDepth (colours.foldl loadColour s)
  | .copyBuffer source target size => s.copyBuffer source target size.toNat
  | .copyTexture source target size => s.copyTexture source target size
  | .readTexture source target layout size => s.readTexture source target layout size
  | _ => s

/-! ## Objects -/

/-- Numbers an object. -/
def create (s : State) {kind : ObjectKind} : Object kind × State :=
  (⟨s.nextId⟩, { s with nextId := s.nextId + 1 })

/-- Creates a buffer with given bytes. -/
def createStore (s : State) (size : Nat) (data : Unit → ByteArray) : Object .buffer × State :=
  let (object, s) := s.create
  if size ≤ keptBytes then (object, { s with stores := ⟨object.id, data ()⟩ :: s.stores })
  else (object, s)

/-- Creates a texture of zeros. -/
def createImage (s : State) (desc : TextureDescription) : Object .texture × State :=
  let (object, s) := s.create
  let levels := (List.range desc.levelCount.toNat).map UInt32.ofNat
  if levels.foldl (· + levelBytes desc ·) 0 ≤ keptBytes then
    let image : Image := ⟨object.id, desc.format, levels.map (emptyLevel desc)⟩
    (object, { s with images := image :: s.images })
  else (object, s)

/-- Creates a view. -/
def createView (s : State) (texture : Object .texture) (desc : ViewDescription) :
    Object .view × State :=
  let (object, s) := s.create
  (object, { s with views := ⟨object.id, texture.id, desc.firstLayer⟩ :: s.views })

/-! ## Errors -/

/-- Ends an error scope. -/
def popScope (script : Script) (s : State) : Option String × State :=
  (if script.scopeFails s.scopes then some "scripted validation error" else none,
    { s with scopes := s.scopes + 1 })

/-- Finishes the mappings that are waited for. -/
def finishMaps (script : Script) (s : State) : List Mapping × State :=
  (s.pending.zipIdx.map fun (buffer, i) => ⟨buffer, !script.mapFails (s.maps + i)⟩,
    { s with pending := [], maps := s.maps + s.pending.length })

/-- Polls the device.  A poll that fails leaves the mappings to the next one. -/
def poll (script : Script) (s : State) : PollResult × State :=
  let uncaptured := if script.uncaptured s.polls then some "scripted uncaptured error" else none
  let fails := script.pollFails s.polls
  let s := { s with polls := s.polls + 1 }
  if fails then (⟨uncaptured, .error pollTimeout⟩, s)
  else
    let (mappings, s) := s.finishMaps script
    (⟨uncaptured, .ok mappings⟩, s)

end State

/-- The answers of a simulated device. -/
def answer (script : Script) : (c : Call) → State → c.Answer × State
  | .requestAdapter _, s =>
    (match script.adapter with
      | some adapter => .ok adapter
      | none => .error noAdapter, s)
  | .requestDevice _ _, s =>
    (if script.deviceFails then .error "scripted device error" else .ok (), s)
  | .pushErrorScope, s => ((), s)
  | .popErrorScope, s => s.popScope script
  | .poll, s => s.poll script
  | .createBuffer desc, s =>
    s.createStore desc.size.toNat fun _ => zeros desc.size.toNat
  | .createBufferWith _ contents _, s =>
    s.createStore contents.length fun _ => ⟨contents.toArray⟩
  | .writeBuffer buffer contents, s => ((), s.modifyStore buffer (overFront contents))
  | .map buffer, s => ((), { s with pending := s.pending ++ [buffer] })
  | .mapped buffer, s => ((s.store? buffer).getD .empty, s)
  | .unmap _, s => ((), s)
  | .destroyBuffer buffer, s => ((), { s with stores := s.stores.filter (·.id ≠ buffer.id) })
  | .createTexture desc, s => s.createImage desc
  | .writeTexture w, s => ((), s.writeRows w.place ⟨w.contents.toArray⟩ (.ofLayout w.layout) w.size)
  | .destroyTexture texture, s => ((), { s with images := s.images.filter (·.id ≠ texture.id) })
  | .createView texture desc, s => s.createView texture desc
  | .createSampler _ _, s => s.create
  | .createShaderModule _ _, s => s.create
  | .createBindGroupLayout _ _, s => s.create
  | .createBindGroup _ _ _, s => s.create
  | .createPipelineLayout _ _, s => s.create
  | .createRenderPipeline _, s => s.create
  | .createComputePipeline _ _ _, s => s.create
  | .submit _ commands, s => ((), commands.foldl State.run s)
  | .report _, s => ((), s)

end ShaderConformance.Gpu.Simulated
