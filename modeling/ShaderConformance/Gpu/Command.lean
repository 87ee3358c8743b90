import ShaderConformance.Gpu.Object
import ShaderConformance.Pipeline.State

/-!
# Commands of graphics devices

A list of commands is recorded first and takes effect when it is submitted.  Texel
copies name a place in a texture, and how the rows lie in a buffer.
-/

namespace ShaderConformance.Gpu

/-- A place in a texture; the texel at its origin is the first one of a layer or
    slice. -/
structure Place where
  texture : Object .texture
  level : UInt32
  /-- The layer or slice. -/
  layer : UInt32
  aspect : Aspect
deriving DecidableEq, Repr

/-- How rows of texels lie in a buffer or in bytes. -/
structure RowLayout where
  bytesPerRow : UInt32
  rowsPerImage : UInt32
deriving DecidableEq, Repr

/-- What happens to an attachment when a pass begins. -/
inductive Load (T : Type) where
  | keep
  | clear (value : T)
deriving DecidableEq, Repr

/-- A colour attachment of a pass. -/
structure ColourAttachment where
  view : Object .view
  load : Load (Vector Double 4)
deriving DecidableEq, Repr

/-- The depth attachment of a pass, and its stencil part if it has one. -/
structure DepthAttachment where
  view : Object .view
  depth : Load Single
  stencil : Option (Load UInt32)
deriving DecidableEq, Repr

/-- A recorded command. -/
inductive Command where
  | renderPass (label : String) (colours : List ColourAttachment)
      (depth : Option DepthAttachment)
  | computePass (label : String)
  | endPass
  | setRenderPipeline (pipeline : Object .renderPipeline)
  | setComputePipeline (pipeline : Object .computePipeline)
  /-- Binds group 0. -/
  | setBindGroup (group : Object .bindGroup)
  | setVertexBuffer (index : Nat) (buffer : Object .buffer)
  | setViewport (viewport : Viewport)
  | draw (vertices instances : UInt32)
  | dispatch (x y z : UInt32)
  /-- Copies the front of a buffer over the front of another one. -/
  | copyBuffer (source target : Object .buffer) (size : UInt64)
  | copyTexture (source target : Place) (size : Extent)
  | readTexture (source : Place) (target : Object .buffer) (layout : RowLayout) (size : Extent)
deriving DecidableEq, Repr

end ShaderConformance.Gpu
