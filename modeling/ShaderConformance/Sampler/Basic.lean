import ShaderConformance.Comparison

/-!
# Samplers
-/

namespace ShaderConformance

/-- How texels are filtered. -/
inductive FilterMode where
  | point
  | linear
deriving DecidableEq, Repr, Inhabited

/-- The filter of a sampler. -/
structure SamplerFilter where
  min : FilterMode
  mag : FilterMode
  mip : FilterMode
  /-- Whether samples are compared with a reference instead of returned. -/
  comparison : Bool
deriving DecidableEq, Repr, Inhabited

/-- How a texture is addressed outside of the unit interval. -/
inductive AddressMode where
  | border
  | clamp
  | mirror
  | mirrorOnce
  | wrap
deriving DecidableEq, Repr, Inhabited

/-- A value for each of the three texture coordinates. -/
structure PerCoordinate (T : Type) where
  u : T
  v : T
  w : T
deriving DecidableEq, Repr, Inhabited

/-- A sampler, named by its slot. -/
structure SamplerDesc where
  slot : UInt32
  filter : SamplerFilter
  address : PerCoordinate AddressMode
  func : Option ComparisonFunc
deriving DecidableEq, Repr, Inhabited

/-- The sampler that a block starts with: point filtering, clamped coordinates. -/
def SamplerDesc.fresh (slot : UInt32) : SamplerDesc where
  slot := slot
  filter := { min := .point, mag := .point, mip := .point, comparison := false }
  address := { u := .clamp, v := .clamp, w := .clamp }
  func := none

namespace AddressMode

/-- Every address mode under its name. -/
def table : List (String × AddressMode) :=
  [("border", border), ("clamp", clamp), ("mirror_once", mirrorOnce), ("mirror", mirror),
   ("wrap", wrap)]

end AddressMode

/-- Every filter mode under its name. -/
def FilterMode.table : List (String × FilterMode) := [("point", point), ("linear", linear)]

end ShaderConformance
