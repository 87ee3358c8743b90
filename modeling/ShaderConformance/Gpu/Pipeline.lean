import ShaderConformance.Gpu.Conversion
import ShaderConformance.Shader.Basic

/-!
# Bindings and pipelines of graphics devices
-/

namespace ShaderConformance.Gpu

/-- A stage that sees a binding. -/
inductive Stage where
  | vertex
  | fragment
  | compute
deriving DecidableEq, Repr

def Stage.name : Stage → String
  | vertex => "VERTEX"
  | fragment => "FRAGMENT"
  | compute => "COMPUTE"

/-- How a shader samples through a sampler. -/
inductive SamplerBinding where
  | filtering
  | nonFiltering
  | comparison
deriving DecidableEq, Repr

def SamplerBinding.name : SamplerBinding → String
  | filtering => "Filtering"
  | nonFiltering => "NonFiltering"
  | comparison => "Comparison"

/-- What a layout expects at a binding. -/
inductive BindingType where
  | uniform
  | storage (readOnly : Bool)
  | sampler (type : SamplerBinding)
  | texture (sampleType : SampleType) (dimension : ViewDimension) (multisampled : Bool)
  | storageTexture (readable : Bool) (format : TextureFormat) (dimension : ViewDimension)
deriving DecidableEq, Repr

/-- An entry of a bind group layout. -/
structure LayoutEntry where
  binding : UInt32
  visibility : List Stage
  type : BindingType
deriving DecidableEq, Repr

/-- An object that is bound. -/
inductive Bound where
  | buffer (b : Object .buffer)
  | view (v : Object .view)
  | sampler (s : Object .sampler)
deriving DecidableEq, Repr

/-- An entry of a bind group. -/
structure GroupEntry where
  binding : UInt32
  resource : Bound
deriving DecidableEq, Repr

/-- Where an attribute lies in a vertex. -/
structure VertexAttribute where
  format : VertexFormat
  offset : Nat
  location : Nat
deriving DecidableEq, Repr

/-- How the vertices lie in a vertex buffer. -/
structure VertexLayout where
  stride : Nat
  attributes : List VertexAttribute
deriving DecidableEq, Repr

/-- The depth test of a pipeline. -/
structure DepthTest where
  format : TextureFormat
  writes : Bool
  compare : ComparisonFunc
deriving DecidableEq, Repr

/-- A module and its function for a stage. -/
structure StageFunction where
  module : Object .shaderModule
  entryPoint : String
deriving DecidableEq, Repr

/-- How a pipeline for draws is created. -/
structure RenderPipelineDescription where
  label : String
  layout : Object .pipelineLayout
  vertex : StageFunction
  buffers : List VertexLayout
  topology : PrimitiveTopology
  depth : Option DepthTest
  sampleCount : UInt32
  sampleMask : UInt32
  fragment : StageFunction
  /-- The formats of the colour attachments. -/
  targets : List TextureFormat
deriving DecidableEq, Repr

/-- Code that a device can load. -/
inductive ModuleSource where
  | wgsl (text : Text)
  | spirv (words : List UInt32)
deriving DecidableEq, Repr

end ShaderConformance.Gpu
