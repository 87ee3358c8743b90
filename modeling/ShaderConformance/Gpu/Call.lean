import ShaderConformance.Dialogue
import ShaderConformance.Gpu.Command
import ShaderConformance.Gpu.Pipeline
import ShaderConformance.Log

/-!
# Calls of a graphics device

The calls that a backend makes on a graphics device, each with the type of its answers.
Validation errors go to the innermost open error scope; errors that no scope catches
come to light when the device is polled.
-/

namespace ShaderConformance.Gpu

/-- A graphics interface under which an adapter is found. -/
inductive Interface where
  | noop
  | vulkan
  | metal
  | dx12
  | gl
  | browserWebGpu
deriving DecidableEq, Repr

namespace Interface

def all : List Interface := [noop, vulkan, metal, dx12, gl, browserWebGpu]

def name : Interface → String
  | noop => "Noop"
  | vulkan => "Vulkan"
  | metal => "Metal"
  | dx12 => "Dx12"
  | gl => "Gl"
  | browserWebGpu => "BrowserWebGpu"

end Interface

/-- What an adapter is and can do. -/
structure Adapter where
  name : String
  kind : Interface
  has : Feature → Bool
  /-- The formats of storage textures. -/
  stores : TextureFormat → Bool
  /-- The formats of storage textures that shaders can both read and write. -/
  readsAndWrites : TextureFormat → Bool

/-- Contents for a level of a layer of a texture. -/
structure TextureWrite where
  place : Place
  contents : List UInt8
  layout : RowLayout
  size : Extent
deriving DecidableEq, Repr

/-- Whether the mapping of a buffer succeeded. -/
structure Mapping where
  buffer : Object .buffer
  succeeded : Bool
deriving DecidableEq, Repr

/-- What came to light when a device was polled. -/
structure PollResult where
  /-- An error that no scope caught. -/
  uncaptured : Option String
  /-- The mappings that are done, or why waiting for submitted work failed. -/
  finished : Except String (List Mapping)

/-- A call of a graphics device, or a message for the log. -/
inductive Call where
  /-- Asks for a fast adapter of some interfaces. -/
  | requestAdapter (interfaces : List Interface)
  /-- Asks for a device with some features. -/
  | requestDevice (label : String) (features : List Feature)
  | pushErrorScope
  | popErrorScope
  /-- Waits for submitted work. -/
  | poll
  | createBuffer (desc : BufferDescription)
  /-- Creates a buffer with contents. -/
  | createBufferWith (label : String) (contents : List UInt8) (usage : List BufferUsage)
  /-- Writes over the front of a buffer. -/
  | writeBuffer (buffer : Object .buffer) (contents : List UInt8)
  /-- Asks to map a buffer for reading. -/
  | map (buffer : Object .buffer)
  /-- The bytes of a mapped buffer. -/
  | mapped (buffer : Object .buffer)
  | unmap (buffer : Object .buffer)
  | destroyBuffer (buffer : Object .buffer)
  | createTexture (desc : TextureDescription)
  | writeTexture (write : TextureWrite)
  | destroyTexture (texture : Object .texture)
  | createView (texture : Object .texture) (desc : ViewDescription)
  | createSampler (label : String) (desc : SamplerDescription)
  | createShaderModule (label : String) (source : ModuleSource)
  | createBindGroupLayout (label : String) (entries : List LayoutEntry)
  | createBindGroup (label : String) (layout : Object .bindGroupLayout)
      (entries : List GroupEntry)
  | createPipelineLayout (label : String) (groups : List (Object .bindGroupLayout))
  | createRenderPipeline (desc : RenderPipelineDescription)
  | createComputePipeline (label : String) (layout : Object .pipelineLayout)
      (function : StageFunction)
  /-- Has recorded commands take effect. -/
  | submit (label : String) (commands : List Command)
  | report (entry : LogEntry)

/-- The type of the answers to a call.  An error scope gives the error that it
    caught. -/
abbrev Call.Answer : Call → Type
  | requestAdapter _ => Except String Adapter
  | requestDevice _ _ => Except String Unit
  | pushErrorScope => Unit
  | popErrorScope => Option String
  | poll => PollResult
  | createBuffer _ => Object .buffer
  | createBufferWith _ _ _ => Object .buffer
  | writeBuffer _ _ => Unit
  | map _ => Unit
  | mapped _ => ByteArray
  | unmap _ => Unit
  | destroyBuffer _ => Unit
  | createTexture _ => Object .texture
  | writeTexture _ => Unit
  | destroyTexture _ => Unit
  | createView _ _ => Object .view
  | createSampler _ _ => Object .sampler
  | createShaderModule _ _ => Object .shaderModule
  | createBindGroupLayout _ _ => Object .bindGroupLayout
  | createBindGroup _ _ _ => Object .bindGroup
  | createPipelineLayout _ _ => Object .pipelineLayout
  | createRenderPipeline _ => Object .renderPipeline
  | createComputePipeline _ _ _ => Object .computePipeline
  | submit _ _ => Unit
  | report _ => Unit

/-- A dialogue with a graphics device. -/
abbrev Program := Dialogue Call.Answer

namespace Program

/-- Makes one call. -/
def call (c : Call) : Program c.Answer := Dialogue.question c

/-- Logs a message. -/
def log (level : LogLevel) (text : String) : Program Unit := call (.report ⟨level, .device, text⟩)

/-- Runs a program in an error scope, which gives an error in place of the result. -/
def inErrorScope {T : Type} (body : Program T) : Program (Except String T) := do
  call .pushErrorScope
  let value ← body
  match ← call .popErrorScope with
  | some error => return .error error
  | none => return .ok value

/-- Polls the device, and logs an error that no scope caught. -/
def poll : Program (Except String (List Mapping)) := do
  let result ← call .poll
  if let some error := result.uncaptured then
    log .error s!"Uncaptured wgpu error: {error}"
  return result.finished

/-- Waits for submitted work; whether that succeeded. -/
def wait : Program Bool := do
  match ← poll with
  | .ok _ => return true
  | .error error =>
    log .warn s!"Failed to wait for the device: {error}"
    return false

end Program

end ShaderConformance.Gpu
