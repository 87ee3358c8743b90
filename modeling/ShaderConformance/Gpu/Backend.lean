import ShaderConformance.Gpu.Draw
import ShaderConformance.Gpu.Subresource
import ShaderConformance.Run.Request

/-!
# A backend on a graphics device

What each request of a run does on a device.  Every operation is made in an error scope
of its own, so that one that the device rejects fails by itself.
-/

namespace ShaderConformance.Gpu

open Program

/-! ## Creating and destroying -/

/-- The bytes of a buffer for a resource with a payload of some length: not fewer than
    either asks for, and whole words. -/
def bufferBytes (d : ResourceDesc) (payload : Nat) : UInt64 :=
  UInt64.ofNat (roundUp (max (max d.bufferSize.toNat payload) 4) 4)

/-- A payload with zeros up to a whole number of words. -/
def paddedPayload (payload : List UInt8) : List UInt8 :=
  payload ++ List.replicate (roundUp payload.length 4 - payload.length) 0

/-- Creates a buffer. -/
def createBuffer (d : ResourceDesc) (payload : List UInt8) :
    Program (Except BackendError Handle) := do
  let size := bufferBytes d payload.length
  let usage := [BufferUsage.copySource, .copyTarget, .vertex, .storage]
  let created ← inErrorScope do
    let object ← call (.createBuffer ⟨toString d.ref, size, usage⟩)
    unless payload.isEmpty do call (.writeBuffer object (paddedPayload payload))
    return object
  match created with
  | .ok object => return .ok (.buffer ⟨object, size⟩)
  | .error error => return .error (.failed error)

/-- The description of a texture for a resource. -/
def textureDescription (d : ResourceDesc) (format : TextureFormat) : TextureDescription where
  label := toString d.ref
  size := d.textureExtent
  levelCount := d.levelCount
  sampleCount := d.sampleCount
  dimension := d.textureDimension
  format := format
  usage := d.textureUsage

/-- The texture format of a resource, if a device supports it. -/
def supportedFormat (device : Device) (d : ResourceDesc) :
    Except BackendError TextureFormat :=
  match d.format.texture? with
  | none => .error (.unsupported s!"format {d.format} has no texture format")
  | some format =>
    match device.formats.requiredFeature? format with
    | none => .ok format
    | some feature =>
      if device.has feature then .ok format
      else .error (.unsupported s!"format {d.format} needs {feature.nativeSet}")

/-- The layouts of the levels of a texture.  The layers of a cube are its faces. -/
def checkedLayouts (d : ResourceDesc) : Except BackendError (List LevelLayout) :=
  if d.dimension = .cube ∧ d.layerCount % 6 ≠ 0 then
    .error (.failed s!"cube texture with {d.layerCount} layers")
  else
    match levelLayouts? d with
    | some layouts => .ok layouts
    | none => .error (.failed s!"{d.ref} is too large to upload")

/-- Makes writes one after the other. -/
def writeAll (texture : Object .texture) : List Upload → Program Unit
  | [] => return
  | u :: more => do
    call (.writeTexture (u.write texture))
    writeAll texture more

/-- Creates a texture whose format and levels are supported. -/
def createTextureOf (d : ResourceDesc) (payload : List UInt8) (format : TextureFormat)
    (layouts : List LevelLayout) : Program (Except BackendError Handle) := do
  let desc := textureDescription d format
  let created ← inErrorScope do
    let object ← call (.createTexture desc)
    writeAll object (textureUploads d layouts payload)
    return object
  match created with
  | .ok object => return .ok (.texture ⟨object, format, desc.dimension, desc.size.depthOrLayers⟩)
  | .error error => return .error (.failed error)

/-- Creates a texture. -/
def createTexture (device : Device) (d : ResourceDesc) (payload : List UInt8) :
    Program (Except BackendError Handle) :=
  match supportedFormat device d with
  | .error error => return .error error
  | .ok format =>
    match checkedLayouts d with
    | .error error => return .error error
    | .ok layouts => createTextureOf d payload format layouts

/-- Creates a resource. -/
def create (device : Device) (d : ResourceDesc) (payload : List UInt8) :
    Program (Except BackendError Handle) :=
  if d.isBuffer then createBuffer d payload else createTexture device d payload

/-- Destroys what was created. -/
def destroy : Handle → Program Unit
  | .texture t => call (.destroyTexture t.object)
  | .buffer b => call (.destroyBuffer b.object)

/-! ## Clearing -/

/-- The view of the first level of a layer. -/
def layerView (layer : UInt32) : ViewDescription := ⟨some .d2, .all, some 1, layer, some 1⟩

/-- The pass that clears what a view shows. -/
def clearPass (formats : FormatTraits) (format : TextureFormat) (value : ClearValue)
    (view : Object .view) : Command :=
  match value with
  | .colour colour =>
    .renderPass "Clear Pass" [⟨view, .clear (colour.map Single.toDouble)⟩] none
  | .depth depth =>
    let stencil := if formats.hasStencil format then some (.clear 0) else none
    .renderPass "Clear Pass" [] (some ⟨view, .clear depth, stencil⟩)

/-- The commands that clear a number of layers from a layer on, each through a view of
    its own. -/
def clearCommands (formats : FormatTraits) (texture : Texture) (value : ClearValue) :
    (layers : Nat) → (layer : UInt32) → Program (List Command)
  | 0, _ => return []
  | layers + 1, layer => do
    let view ← call (.createView texture.object (layerView layer))
    let more ← clearCommands formats texture value layers (layer + 1)
    return clearPass formats texture.format value view :: .endPass :: more

/-- Waits for an operation that the device accepted; whether all went well. -/
def finish (what : String) (result : Except String Bool) : Program Bool :=
  match result with
  | .ok true => wait
  | .ok false => return false
  | .error error => do
    log .debug s!"{what} failed: {error}"
    return false

/-- Clears a texture; whether it was cleared. -/
def clearTexture (formats : FormatTraits) (texture : Texture) (value : ClearValue) :
    Program Bool := do
  if texture.dimension = .d3 then
    log .debug "Clearing 3D textures is not supported"
    return false
  let result ← inErrorScope do
    let commands ← clearCommands formats texture value texture.depthOrLayers.toNat 0
    call (.submit "Clear Encoder" commands)
    return true
  finish "Clear" result

/-- Clears a resource; whether it was cleared. -/
def clear (device : Device) (handle : Handle) (value : ClearValue) : Program Bool :=
  match handle with
  | .texture t => clearTexture device.formats t value
  | .buffer _ => return false

/-! ## Drawing -/

/-- Makes a draw or dispatch; whether it was made. -/
def render (what : String) (encode : Attempt Unit) : Program Bool := do
  match ← inErrorScope encode.run with
  | .ok (.ok ()) => wait
  | .ok (.error fault) => finish what (.error fault.message)
  | .error error => finish what (.error error)

/-- Draws; whether the draw was made. -/
def draw (device : Device) (state : RenderState Handle) (topology : Topology)
    (vertices instances : UInt32) : Program Bool :=
  match topology.primitive? with
  | none => do
    log .debug s!"Topology {topology} is not supported"
    return false
  | some primitive =>
    match state.shader .vertex, state.shader .pixel with
    | some vertex, some pixel =>
      render "Draw" (encodeDraw device state vertex pixel primitive vertices instances)
    | _, _ => do
      log .debug "Drawing needs a vertex and a pixel shader"
      return false

/-- Dispatches; whether the dispatch was made. -/
def dispatch (device : Device) (state : RenderState Handle) (x y z : UInt32) : Program Bool :=
  match state.shader .compute with
  | some compute => render "Dispatch" (encodeDispatch device state compute x y z)
  | none => do
    log .debug "Dispatching needs a compute shader"
    return false

/-! ## Copying -/

/-- The extent of all layers or slices of a level. -/
def levelExtent (d : ResourceDesc) (level : UInt32) : Extent :=
  ⟨d.levelWidth level, d.levelHeight level,
    if d.dimension = .texture3d then d.levelDepth level else d.layerCount⟩

/-- The copies of all levels of a described texture. -/
def copyLevels (d : ResourceDesc) (source target : Object .texture) : List Command :=
  (List.range d.levelCount.toNat).map fun n =>
    let level := UInt32.ofNat n
    .copyTexture ⟨source, level, 0, .all⟩ ⟨target, level, 0, .all⟩ (levelExtent d level)

/-- The commands that copy a resource, unless one is a texture and one a buffer. -/
def copyCommands? (source target : Resource Handle) : Option (List Command) :=
  match source.handle, target.handle with
  | .buffer a, .buffer b => some [.copyBuffer a.object b.object (min a.size b.size)]
  | .texture a, .texture b => some (copyLevels source.desc a.object b.object)
  | _, _ => none

/-- Copies a resource; whether it was copied. -/
def copy (source target : Resource Handle) : Program Bool := do
  let result ← inErrorScope do
    match copyCommands? source target with
    | none => return false
    | some commands =>
      call (.submit "Copy Encoder" commands)
      return true
  finish "Copy" result

/-! ## Reading back -/

/-- Whether the mapping of a buffer is among those that succeeded. -/
def isMapped (buffer : Object .buffer) (finished : Except String (List Mapping)) : Bool :=
  match finished with
  | .ok mappings => mappings.contains ⟨buffer, true⟩
  | .error _ => false

/-- The bytes of a staging buffer, once it is mapped. -/
def readMapped (staging : Object .buffer) : Program (Option ByteArray) := do
  call (.map staging)
  if isMapped staging (← poll) then
    let data ← call (.mapped staging)
    call (.unmap staging)
    return some data
  else return none

/-- Copies something into a staging buffer of a size and reads that. -/
def readStaging (size : UInt64) (command : Object .buffer → Command) :
    Program (Option ByteArray) := do
  let created ← inErrorScope do
    let staging ← call (.createBuffer ⟨"Readback Buffer", size, [.mapRead, .copyTarget]⟩)
    call (.submit "Readback Encoder" [command staging])
    return staging
  match created with
  -- The buffer is mapped outside of the scope: a failure to map is no validation error.
  | .ok staging => readMapped staging
  | .error error =>
    log .debug s!"Readback failed: {error}"
    return none

/-- Reads a buffer back as one row. -/
def readBuffer (d : ResourceDesc) (b : Buffer) : Program (Option Readback) := do
  let data ← readStaging b.size fun staging => .copyBuffer b.object staging b.size
  return data.map fun data =>
    { format := d.format, width := d.width, height := 1, depth := 1, rowPitch := data.size
      texelSize := d.texelSize.toNat, data }

/-- Reads a level of a layer back through a buffer of a size, with its rows padded to a
    pitch. -/
def readLevel (d : ResourceDesc) (place : Place) (layout : LevelLayout) (pitch : UInt32)
    (size : UInt64) : Program (Option Readback) := do
  let data ← readStaging size fun staging =>
    .readTexture place staging ⟨pitch, layout.height⟩ layout.extent
  return data.map fun data =>
    { format := d.format, width := layout.width, height := layout.height, depth := layout.depth
      rowPitch := pitch.toNat, texelSize := d.texelSize.toNat, data }

/-- Reads a subresource of a texture with levels back. -/
def readSubresource (d : ResourceDesc) (t : Texture) (subresource : UInt32) :
    Program (Except ArithmeticError (Option Readback)) :=
  match levelLayout? d (subresourceLevel d subresource) with
  | none => return .ok none
  | some layout =>
    match rowPitch? layout.row with
    | none => return .ok none
    | some pitch =>
      match stagingSize pitch layout.height layout.depth with
      | .error e => return .error e
      | .ok size => do
        return .ok (← readLevel d (subresourcePlace d t.object subresource) layout pitch size)

/-- Reads a subresource of a texture back. -/
def readTexture (d : ResourceDesc) (t : Texture) (subresource : UInt32) :
    Program (Except ArithmeticError (Option Readback)) := do
  if 1 < d.sampleCount ∨ t.format = .depth24PlusStencil8 then
    log .debug s!"{d.ref} cannot be read back"
    return .ok none
  -- The level of a subresource is a remainder by the number of levels.
  if d.levelCount = 0 then return .error .divisionByZero
  readSubresource d t subresource

/-- Reads a subresource back. -/
def readback (resource : Resource Handle) (subresource : UInt32) :
    Program (Except ArithmeticError (Option Readback)) :=
  match resource.handle with
  | .buffer b => do return .ok (← readBuffer resource.desc b)
  | .texture t => readTexture resource.desc t subresource

end ShaderConformance.Gpu
