import ShaderConformance.Command.Basic
import ShaderConformance.Record.Basic

/-!
# Records of pipeline state and commands
-/

namespace ShaderConformance

def Topology.toJson (t : Topology) : Json := .str t.name

def ShadeMode.toJson (m : ShadeMode) : Json := .str <| match m with
  | .flat => "Flat"
  | .gouraud => "Gouraud"

def FogMode.toJson (m : FogMode) : Json := .str <| match m with
  | .none => "None"
  | .linear => "Linear"
  | .exp => "Exp"
  | .exp2 => "Exp2"

def Quad.toJson (q : Quad) : Json := .ofList Single.toJson q.toList

def Viewport.toJson (v : Viewport) : Json :=
  .ofList Single.toJson [v.x, v.y, v.width, v.height, v.minDepth, v.maxDepth]

def PointSize.toJson (p : PointSize) : Json := .ofList Single.toJson [p.size, p.min, p.max]

/-- The record of an alpha test. -/
def alphaTestJson (t : ComparisonFunc × Single) : Json := .list [t.1.toJson, t.2.toJson]

def FixedFunctionState.toJson (f : FixedFunctionState) : Json := .object
  [("depth", .ofOption ComparisonFunc.toJson f.depthFunc),
   ("depth_bounds", .ofOption (fun (a, b) => .ofList Single.toJson [a, b]) f.depthBounds),
   ("sample_mask", .ofWord f.sampleMask), ("alpha_test", .ofOption alphaTestJson f.alphaTest),
   ("shade_mode", f.shadeMode.toJson),
   ("clip_planes", .ofList (.ofOption Quad.toJson) f.clipPlanes.toList),
   ("point_size", f.pointSize.toJson), ("point_sprite", .bool f.pointSprite),
   ("fog", .ofOption FogMode.toJson f.fog), ("fog_colour", Quad.toJson f.fogColour)]

def ProbeRect.toJson (r : ProbeRect) : Json :=
  .ofList .ofWord [r.left, r.top, r.right, r.bottom, r.layer]

/-- Integers as decimal strings. -/
def decimals {T : Type} [ToString T] (values : List T) : Json :=
  .ofList (fun n => .str (toString n)) values

def ProbeValue.toJson (v : ProbeValue) : Json :=
  let (kind, values) : String × Json := match v with
    | .u64 v => ("u64", decimals v)
    | .i64 v => ("i64", decimals v)
    | .f64 v => ("f64", .ofList Double.toJson v)
    | .u32 v => ("u32", decimals v)
    | .i32 v => ("i32", decimals v)
    | .f32 v => ("f32", .ofList Single.toJson v)
  .object [("kind", .str kind), ("values", values)]

/-- A command as a list of its name and its operands. -/
def Command.toJson (c : Command) : Json :=
  let named (name : String) (operands : List Json) : Json := .list (.str name :: operands)
  match c with
  | .dispatch x y z => named "dispatch" [.ofWord x, .ofWord y, .ofWord z]
  | .clearTarget slot colour => named "clear rtv" [.ofWord slot, Quad.toJson colour]
  | .clearDepth depth => named "clear dsv" [depth.toJson]
  | .depthFunc func => named "depth" [.ofOption ComparisonFunc.toJson func]
  | .depthBounds min max => named "depth-bounds" [.ofList Single.toJson [min, max]]
  | .drawQuad => named "draw quad" []
  | .draw topology vertices instances =>
    named "draw" [topology.toJson, .ofWord vertices, .ofWord instances]
  | .copy source target => named "copy" [source.toJson, target.toJson]
  | .probe target rect value steps =>
    named "probe" [target.toJson, rect.toJson, value.toJson, .str value.text, .ofWord steps]
  | .uniform offset data => named "uniform" [.ofWord offset, .ofBytes data]
  | .sampleMask mask => named "sample mask" [.ofWord mask]
  | .alphaTest test => named "alpha test" [.ofOption alphaTestJson test]
  | .shadeMode mode => named "shade mode" [mode.toJson]
  | .clipPlane index plane => named "clip-plane" [.ofNat index, .ofOption Quad.toJson plane]
  | .pointSize size => named "point-size" [size.toJson]
  | .pointSprite enabled => named "point-sprite" [.bool enabled]
  | .fog mode => named "fog" [.ofOption FogMode.toJson mode]
  | .fogColour colour => named "fog-colour" [Quad.toJson colour]
  | .viewport index area => named "viewport" [.ofNat index, area.toJson]

end ShaderConformance
