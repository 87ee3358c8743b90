import ShaderConformance.Record.Pipeline
import ShaderConformance.Run.File

/-!
# Records of requests

Each request of a run as an object, given the form of what a backend gives for a
resource.
-/

namespace ShaderConformance

variable {H : Type} (handle : H → Json)

/-- A resource as its type, slot and handle. -/
def Resource.toJson (r : Resource H) : Json :=
  .list [r.desc.type.toJson, .ofWord r.desc.slot, handle r.handle]

/-- The compiled stages of a render state. -/
def shadersJson (shader : ShaderType → Option CompiledShader) : Json :=
  .list (ShaderType.all.filterMap fun t => (shader t).map fun c =>
    .list [.str c.type.name, c.model.toJson, .str c.entryPoint])

def RenderState.toJson (s : RenderState H) : Json := .object
  [("shaders", shadersJson s.shader),
   ("resources", .ofList (Resource.toJson handle) s.registry.resources),
   ("samplers", .ofList SamplerDesc.toJson s.registry.samplers),
   ("input", .ofList InputElement.toJson s.inputElements), ("uniforms", .ofBytes s.uniforms),
   ("viewports", .ofList (.ofOption Viewport.toJson) s.viewports.toList),
   ("fixed", s.fixed.toJson)]

/-- The options of a set by name. -/
def CompileOptions.toJson (s : CompileOptions) : Json := .ofList (fun o => .str o.name) s.toList

/-- The record of a compile. -/
def compileJson (source : ShaderSource) (type : ShaderType) (model : ShaderModel)
    (options : CompileOptions) : Json := .object
  [("compile", .list [.str type.name, model.toJson]), ("options", options.toJson),
   ("format", .str source.format.name), ("text", .ofText source.text)]

def Request.toJson : Request H → Json
  | create desc data => .object [("create", desc.toJson), ("data", .ofBytes data)]
  | destroy resource => .object [("destroy", resource.toJson handle)]
  | clear resource value =>
    .object [("clear", resource.toJson handle), ("value", .ofBytes value.bytes)]
  | draw state topology vertices instances => .object
    [("draw", .list [topology.toJson, .ofWord vertices, .ofWord instances]),
     ("state", state.toJson handle)]
  | dispatch state x y z => .object
    [("dispatch", .ofList .ofWord [x, y, z]), ("state", state.toJson handle)]
  | copy source target =>
    .object [("copy", .list [source.toJson handle, target.toJson handle])]
  | readback resource subresource => .object
    [("readback", resource.toJson handle), ("subresource", .ofWord subresource)]
  | compile source type model options => compileJson source type model options
  | preprocess source => .object [("preprocess", .ofText source)]
  | log entry => entry.toJson

/-- Which requests belong into a record. -/
structure RecordFilter where
  /-- All log entries, not only those about checks. -/
  full : Bool
  backend : Bool
  preprocess : Bool
  compile : Bool

/-- Whether a request belongs into a record. -/
def RecordFilter.keeps (f : RecordFilter) (q : Request H) : Bool :=
  match q with
  | .log entry => f.full || entry.topic = .report
  | .preprocess _ => f.preprocess
  | .compile _ _ _ _ => f.compile
  | _ => f.backend

/-- The result of a run after the record of its steps. -/
def RunResult.toJson (steps : List Json) (file : String) : RunResult → Json
  | .ok summary => .object
    [("steps", .list steps), ("summary", summary.toJson), ("text", .str summary.text)]
  | .error fault => .object
    [("steps", .list steps), ("error", .str "parse"), ("line", .ofNat fault.line),
     ("message", .str (fault.message file))]

end ShaderConformance
