import ShaderConformance.Format
import ShaderConformance.Shader.Basic

/-!
# Capabilities of a runner

What a runner and its compiler support: a range of shader models, optional
features, formats that can be loaded through unordered access views, and source
formats.
-/

namespace ShaderConformance

/-- An optional feature that a test may require. -/
inductive Feature where
  | clipPlanes
  | depthBounds
  | float64
  | fog
  | geometryShader
  | int64
  | pointSize
  | rov
  | rtVpArrayIndex
  | tessellationShader
  | waveOps
  | native16Bit
deriving DecidableEq, Repr, Inhabited

namespace Feature

/-- Every feature, in the usual order. -/
def all : List Feature :=
  [clipPlanes, depthBounds, float64, fog, geometryShader, int64, pointSize, rov, rtVpArrayIndex,
   tessellationShader, waveOps, native16Bit]

/-- The keyword of a feature. -/
def name : Feature → String
  | clipPlanes => "clip-planes"
  | depthBounds => "depth-bounds"
  | float64 => "float64"
  | fog => "fog"
  | geometryShader => "geometry-shader"
  | int64 => "int64"
  | pointSize => "point-size"
  | rov => "rov"
  | rtVpArrayIndex => "rt-vp-array-index"
  | tessellationShader => "tessellation-shader"
  | waveOps => "wave-ops"
  | native16Bit => "native-16-bit"

instance : ToString Feature := ⟨name⟩

/-- Every feature under its keyword. -/
def table : List (String × Feature) := all.map fun f => (f.name, f)

def ofName? (name : String) : Option Feature := all.find? (·.name = name)

/-- The feature with a keyword, or that there is none. -/
def parse (name : String) : Except UnknownName Feature :=
  named "capability" name (ofName? name)

end Feature

/-- What a runner and its compiler support. -/
structure Capabilities where
  /-- The name of the backend. -/
  runner : String
  /-- The name of the compiler. -/
  compiler : String
  /-- The tags that qualifiers may ask for. -/
  tags : List String
  minimumModel : ShaderModel
  maximumModel : ShaderModel
  /-- The optional features that are supported. -/
  has : Feature → Bool
  /-- The formats that can be loaded through an unordered access view. -/
  uavLoad : Format → Bool
  /-- The source formats that are accepted. -/
  sourceFormats : List SourceFormat

namespace Capabilities

/-- Every model, no feature, and one source format. -/
def plain : Capabilities where
  runner := "none"
  compiler := "none"
  tags := []
  minimumModel := .oldest
  maximumModel := .newest
  has := fun _ => false
  uavLoad := fun _ => false
  sourceFormats := [.hlsl]

/-- Whether a source format is accepted. -/
def accepts (c : Capabilities) (f : SourceFormat) : Bool := c.sourceFormats.contains f

/-- The supported features, in their usual order. -/
def features (c : Capabilities) : List Feature := Feature.all.filter c.has

/-- The loadable formats, in their usual order. -/
def uavLoadFormats (c : Capabilities) : List Format := Format.all.filter c.uavLoad

end Capabilities

end ShaderConformance
