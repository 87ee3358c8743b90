import ShaderConformance.Bytes
import ShaderConformance.Comparison

/-!
# Pipeline state

The state of the pipeline that test directives set, and the topologies of a draw.
-/

namespace ShaderConformance

/-- Four numbers: a colour, a plane, a rectangle. -/
abbrev Quad := Vector Single 4

/-- How vertices form primitives. -/
inductive Topology where
  | pointList
  | lineList
  | lineStrip
  | triangleList
  | triangleStrip
  /-- Patches with a number of control points. -/
  | patchList (controlPoints : UInt32)
deriving DecidableEq, Repr, Inhabited

/-- The name of a topology in logs and records. -/
def Topology.name : Topology → String
  | pointList => "PointList"
  | lineList => "LineList"
  | lineStrip => "LineStrip"
  | triangleList => "TriangleList"
  | triangleStrip => "TriangleStrip"
  | patchList n => s!"PatchList({n})"

instance : ToString Topology := ⟨Topology.name⟩

/-- What a clear writes. -/
inductive ClearValue where
  | colour (value : Quad)
  | depth (value : Single)
deriving DecidableEq, Repr

/-- The bytes of a clear value. -/
def ClearValue.bytes : ClearValue → List UInt8
  | colour value => value.toList.flatMap fun x => wordBytes x.bits
  | depth value => wordBytes value.bits

inductive ShadeMode where
  | flat
  | gouraud
deriving DecidableEq, Repr, Inhabited

inductive FogMode where
  | none
  | linear
  | exp
  | exp2
deriving DecidableEq, Repr, Inhabited

structure PointSize where
  size : Single
  min : Single
  max : Single
deriving DecidableEq, Repr, Inhabited

structure Viewport where
  x : Single
  y : Single
  width : Single
  height : Single
  minDepth : Single
  maxDepth : Single
deriving DecidableEq, Repr, Inhabited

/-- The number of user clip planes. -/
abbrev maxClipPlanes : Nat := 8

/-- The number of viewports. -/
abbrev maxViewports : Nat := 4

/-- The state that directives set rather than shaders. -/
structure FixedFunctionState where
  /-- The function of the depth test; without one there is no depth test. -/
  depthFunc : Option ComparisonFunc
  depthBounds : Option (Single × Single)
  sampleMask : UInt32
  /-- The function and reference of the alpha test, if there is one. -/
  alphaTest : Option (ComparisonFunc × Single)
  shadeMode : ShadeMode
  clipPlanes : Vector (Option Quad) maxClipPlanes
  pointSize : PointSize
  pointSprite : Bool
  /-- The fog, if there is any. -/
  fog : Option FogMode
  fogColour : Quad
deriving DecidableEq, Repr

/-- The state that a run starts with. -/
def FixedFunctionState.fresh : FixedFunctionState where
  depthFunc := some .less
  depthBounds := none
  sampleMask := 0xffffffff
  alphaTest := none
  shadeMode := .gouraud
  clipPlanes := Vector.replicate maxClipPlanes none
  pointSize := ⟨.one, .one, .largest⟩
  pointSprite := false
  fog := none
  fogColour := Vector.replicate 4 .zero

end ShaderConformance
