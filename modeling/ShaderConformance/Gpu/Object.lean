import ShaderConformance.Gpu.Format

/-!
# Objects of graphics devices

A device numbers the objects that it creates.  Textures and buffers are kept with what
they were created for, since later calls depend on it.
-/

namespace ShaderConformance.Gpu

/-- The kinds of objects. -/
inductive ObjectKind where
  | buffer
  | texture
  | view
  | sampler
  | shaderModule
  | bindGroupLayout
  | bindGroup
  | pipelineLayout
  | renderPipeline
  | computePipeline
deriving DecidableEq, Repr

/-- An object of a kind, under its number. -/
structure Object (kind : ObjectKind) where
  id : Nat
deriving DecidableEq, Repr

/-- The number of axes of a texture. -/
inductive TextureDimension where
  | d2
  | d3
deriving DecidableEq, Repr

def TextureDimension.name : TextureDimension → String
  | d2 => "D2"
  | d3 => "D3"

/-- What a view of a texture looks like to a shader. -/
inductive ViewDimension where
  | d2
  | d2Array
  | cube
  | d3
deriving DecidableEq, Repr

def ViewDimension.name : ViewDimension → String
  | d2 => "D2"
  | d2Array => "D2Array"
  | cube => "Cube"
  | d3 => "D3"

/-- An extent in texels; the last one counts slices of a volume or layers. -/
structure Extent where
  width : UInt32
  height : UInt32
  depthOrLayers : UInt32
deriving DecidableEq, Repr

/-- What a texture is used for. -/
inductive TextureUsage where
  | copySource
  | copyTarget
  | textureBinding
  | storageBinding
  | renderAttachment
deriving DecidableEq, Repr

def TextureUsage.name : TextureUsage → String
  | copySource => "COPY_SRC"
  | copyTarget => "COPY_DST"
  | textureBinding => "TEXTURE_BINDING"
  | storageBinding => "STORAGE_BINDING"
  | renderAttachment => "RENDER_ATTACHMENT"

/-- What a buffer is used for. -/
inductive BufferUsage where
  | mapRead
  | copySource
  | copyTarget
  | vertex
  | uniform
  | storage
deriving DecidableEq, Repr

def BufferUsage.name : BufferUsage → String
  | mapRead => "MAP_READ"
  | copySource => "COPY_SRC"
  | copyTarget => "COPY_DST"
  | vertex => "VERTEX"
  | uniform => "UNIFORM"
  | storage => "STORAGE"

/-- A texture. -/
structure Texture where
  object : Object .texture
  format : TextureFormat
  dimension : TextureDimension
  depthOrLayers : UInt32
deriving DecidableEq, Repr

/-- A buffer. -/
structure Buffer where
  object : Object .buffer
  /-- Its bytes. -/
  size : UInt64
deriving DecidableEq, Repr

/-- What a device gives for a resource of a test. -/
inductive Handle where
  | texture (t : Texture)
  | buffer (b : Buffer)
deriving DecidableEq, Repr

/-- How a texture is created. -/
structure TextureDescription where
  label : String
  size : Extent
  levelCount : UInt32
  sampleCount : UInt32
  dimension : TextureDimension
  format : TextureFormat
  usage : List TextureUsage
deriving DecidableEq, Repr

/-- How a buffer is created. -/
structure BufferDescription where
  label : String
  size : UInt64
  usage : List BufferUsage
deriving DecidableEq, Repr

/-- How a view of a texture is created; what is left open is that of the texture. -/
structure ViewDescription where
  dimension : Option ViewDimension
  aspect : Aspect
  levelCount : Option UInt32
  firstLayer : UInt32
  layerCount : Option UInt32
deriving DecidableEq, Repr

/-- The view of a whole texture. -/
def ViewDescription.whole : ViewDescription := ⟨none, .all, none, 0, none⟩

end ShaderConformance.Gpu
