/-!
# Kinds of resources

How a resource is bound to the pipeline, and its shape.
-/

namespace ShaderConformance

/-- How a resource is bound to the pipeline. -/
inductive ResourceType where
  | renderTarget
  | depthStencil
  | texture
  /-- Unordered access. -/
  | uav
  | vertexBuffer
deriving DecidableEq, Repr, Inhabited

namespace ResourceType

/-- The keyword in block headers and references. -/
def name : ResourceType → String
  | renderTarget => "rtv"
  | depthStencil => "dsv"
  | texture => "srv"
  | uav => "uav"
  | vertexBuffer => "vb"

instance : ToString ResourceType := ⟨name⟩

def all : List ResourceType := [renderTarget, depthStencil, texture, uav, vertexBuffer]

/-- Every type under its keyword. -/
def table : List (String × ResourceType) := all.map fun t => (t.name, t)

end ResourceType

/-- The shape of a resource. -/
inductive Dimension where
  | buffer
  | texture2d
  | texture2dMs
  | texture2dArray
  | texture3d
  | cube
deriving DecidableEq, Repr, Inhabited

/-- A resource named by its type and slot. -/
structure ResourceRef where
  type : ResourceType
  slot : UInt32
deriving DecidableEq, Repr, Inhabited

instance : ToString ResourceRef := ⟨fun r => s!"{r.type} {r.slot}"⟩

end ShaderConformance
