import ShaderConformance.Pipeline.State
import ShaderConformance.Probe.Basic
import ShaderConformance.Resource.Kind

/-!
# Test commands

What a line of a test block asks for.
-/

namespace ShaderConformance

/-- A test directive. -/
inductive Command where
  | dispatch (x y z : UInt32)
  | clearTarget (slot : UInt32) (colour : Quad)
  | clearDepth (depth : Single)
  /-- Sets the depth function; without one the depth test is off. -/
  | depthFunc (func : Option ComparisonFunc)
  | depthBounds (min max : Single)
  | drawQuad
  | draw (topology : Topology) (vertices instances : UInt32)
  | copy (source target : ResourceRef)
  | probe (target : ResourceRef) (rect : ProbeRect) (value : ProbeValue) (steps : UInt32)
  /-- Writes bytes into the uniform buffer; the offset counts 32-bit words. -/
  | uniform (offset : UInt32) (data : List UInt8)
  | sampleMask (mask : UInt32)
  | alphaTest (test : Option (ComparisonFunc × Single))
  | shadeMode (mode : ShadeMode)
  | clipPlane (index : Fin maxClipPlanes) (plane : Option Quad)
  | pointSize (size : PointSize)
  | pointSprite (enabled : Bool)
  | fog (mode : Option FogMode)
  | fogColour (colour : Quad)
  | viewport (index : Fin maxViewports) (viewport : Viewport)
deriving DecidableEq, Repr

/-- A line of a test block, with its qualifiers evaluated. -/
structure TestLine where
  /-- Failure is expected for a missing feature. -/
  todo : Bool
  /-- Failure is expected for a known bug. -/
  bug : Bool
  command : Command
deriving DecidableEq, Repr

/-- The largest uniform buffer in bytes. -/
def maxUniformSize : Nat := 65536

end ShaderConformance
