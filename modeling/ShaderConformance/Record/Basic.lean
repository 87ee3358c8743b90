import ShaderConformance.Capabilities.Basic
import ShaderConformance.InputElement
import ShaderConformance.Json.Numbers
import ShaderConformance.Qualifier.Basic
import ShaderConformance.Report
import ShaderConformance.Resource.Description
import ShaderConformance.Sampler.Basic
import ShaderConformance.Shader.Header

/-!
# Records of the parts of test files

The JSON form of models, capabilities, descriptions and counters.
-/

namespace ShaderConformance

def ShaderModel.toJson (m : ShaderModel) : Json := .str m.name

def ModelMask.toJson (s : ModelMask) : Json := .ofNat s.toNat

def Qualifier.toJson (q : Qualifier) : Json := .object
  [("holds", .bool q.holds), ("models", q.models.toJson), ("gated", q.gated.toJson)]

def Format.toJson (f : Format) : Json := .str f.name

def ComponentType.toJson (t : ComponentType) : Json := .str <| match t with
  | .float => "Float"
  | .unorm => "Unorm"
  | .snorm => "Snorm"
  | .uint => "Uint"
  | .sint => "Sint"
  | .typeless => "Typeless"

def ResourceType.toJson (t : ResourceType) : Json := .str t.name

def ResourceRef.toJson (r : ResourceRef) : Json := .list [r.type.toJson, .ofWord r.slot]

/-- The dimensions under their record names. -/
def Dimension.table : List (String × Dimension) :=
  [("Buffer", buffer), ("Texture2d", texture2d), ("Texture2dMs", texture2dMs),
   ("Texture2dArray", texture2dArray), ("Texture3d", texture3d), ("Cube", cube)]

def Dimension.toJson (d : Dimension) : Json :=
  .ofOption (fun entry => .str entry.1) (Dimension.table.find? (·.2 = d))

def ResourceDesc.toJson (d : ResourceDesc) : Json := .object
  [("type", d.type.toJson), ("slot", .ofWord d.slot), ("dimension", d.dimension.toJson),
   ("format", d.format.toJson), ("texel_size", .ofWord d.texelSize), ("width", .ofWord d.width),
   ("height", .ofWord d.height), ("depth", .ofWord d.depth), ("layers", .ofWord d.layerCount),
   ("levels", .ofWord d.levelCount), ("samples", .ofWord d.sampleCount), ("raw", .bool d.isRaw),
   ("counter", .bool d.isCounter)]

/-- The name of a comparison function in records. -/
def ComparisonFunc.recordName : ComparisonFunc → String
  | never => "Never"
  | less => "Less"
  | equal => "Equal"
  | lessEqual => "LessEqual"
  | greater => "Greater"
  | notEqual => "NotEqual"
  | greaterEqual => "GreaterEqual"
  | always => "Always"

def ComparisonFunc.toJson (f : ComparisonFunc) : Json := .str f.recordName

def FilterMode.toJson (m : FilterMode) : Json := .str <| match m with
  | .point => "Point"
  | .linear => "Linear"

def AddressMode.toJson (m : AddressMode) : Json := .str <| match m with
  | .border => "Border"
  | .clamp => "Clamp"
  | .mirror => "Mirror"
  | .mirrorOnce => "MirrorOnce"
  | .wrap => "Wrap"

def SamplerDesc.toJson (s : SamplerDesc) : Json := .object
  [("slot", .ofWord s.slot),
   ("filter", .ofList FilterMode.toJson [s.filter.min, s.filter.mag, s.filter.mip]),
   ("comparison", .bool s.filter.comparison),
   ("address", .ofList AddressMode.toJson [s.address.u, s.address.v, s.address.w]),
   ("func", .ofOption ComparisonFunc.toJson s.func)]

def InputElement.toJson (e : InputElement) : Json := .object
  [("name", .str e.semanticName), ("index", .ofWord e.semanticIndex), ("slot", .ofWord e.slot),
   ("format", e.format.toJson), ("texel_size", .ofWord e.texelSize)]

def CompileStatus.toJson (s : CompileStatus) : Json := .str <| match s with
  | .ok => "Ok"
  | .fail => "Fail"
  | .notImplemented => "NotImpl"

def ShaderHeader.toJson (h : ShaderHeader) : Json := .object
  [("shader", .str h.type.name), ("todo", h.todo.toJson), ("format", .str h.format.name),
   ("expected", .ofList (fun m => (h.expected m).toJson) ShaderModel.all)]

def Summary.toJson (s : Summary) : Json := .object
  [("passed", .ofNat s.passed), ("failed", .ofNat s.failed), ("skipped", .ofNat s.skipped),
   ("todo", .ofNat s.todo), ("bug", .ofNat s.bug)]

def LogEntry.toJson (e : LogEntry) : Json := .list [.str e.level.name, .str e.text]

def Capabilities.toJson (c : Capabilities) : Json := .object
  [("runner", .str c.runner), ("compiler", .str c.compiler), ("tags", .ofList .str c.tags),
   ("min", c.minimumModel.toJson), ("max", c.maximumModel.toJson),
   ("caps", .ofList (fun f => .str f.name) c.features),
   ("uav_load", .ofList Format.toJson c.uavLoadFormats),
   ("source_formats", .ofList (fun f => .str f.name) c.sourceFormats)]

end ShaderConformance
