import ShaderConformance.Record.Request
import ShaderConformance.Surroundings.Graphics

/-!
# Records of graphics calls

Each call of a graphics device as a list of its name, the object that it created and its
operands.
-/

namespace ShaderConformance

namespace Gpu

def Object.toJson {kind : ObjectKind} (o : Object kind) : Json := .ofNat o.id

def Extent.toJson (e : Extent) : Json := .ofList .ofWord [e.width, e.height, e.depthOrLayers]

def Aspect.toJson : Aspect → Json
  | all => .str "All"
  | depthOnly => .str "DepthOnly"

def RowLayout.toJson (l : RowLayout) : Json :=
  .list [.ofNat 0, .ofWord l.bytesPerRow, .ofWord l.rowsPerImage]

def Place.toJson (p : Place) : Json := .list
  [p.texture.toJson, .ofWord p.level, .list [.ofNat 0, .ofNat 0, .ofWord p.layer], p.aspect.toJson]

/-- A set by the names of its members. -/
def namesJson {T : Type} (name : T → String) (members : List T) : Json :=
  .ofList (fun x => .str (name x)) members

def coordinatesJson {T : Type} (name : T → String) (c : PerCoordinate T) : Json :=
  namesJson name [c.u, c.v, c.w]

/-- The name of a filter in records of devices. -/
def filterName : FilterMode → String
  | .point => "Nearest"
  | .linear => "Linear"

/-- The range of levels of detail that samplers use. -/
def detailRange : Json := .ofList Single.toJson [.zero, .ofInt 32]

/-- The border of a sampler. -/
def borderJson (border : Bool) : Json :=
  if border then .str "TransparentBlack" else .null

/-- The parts of a sampler as a record of its own. -/
def SamplerDescription.toJson (s : SamplerDescription) : Json := .object
  [("address", coordinatesJson AddressMode.name s.address), ("mag", .str (filterName s.mag)),
   ("min", .str (filterName s.min)), ("mip", .str (filterName s.mip)), ("lod", detailRange),
   ("compare", .ofOption ComparisonFunc.toJson s.compare), ("anisotropy", .ofNat 1),
   ("border", borderJson s.border)]

def SampleType.toJson : SampleType → Json
  | float true => .str "Float"
  | float false => .str "UnfilterableFloat"
  | depth => .str "Depth"
  | sint => .str "Sint"
  | uint => .str "Uint"

def BindingType.toJson : BindingType → Json
  | uniform => .list [.str "uniform", .bool false, .bool false]
  | storage readOnly => .list [.str "storage", .bool readOnly, .bool false, .bool false]
  | sampler type => .list [.str "sampler", .str type.name]
  | texture sampleType dimension multisampled =>
    .list [.str "texture", sampleType.toJson, .str dimension.name, .bool multisampled]
  | storageTexture readable format dimension =>
    let access := if readable then "ReadWrite" else "WriteOnly"
    .list [.str "storage_texture", .str access, .str format.name, .str dimension.name]

def LayoutEntry.toJson (e : LayoutEntry) : Json := .list
  [.ofWord e.binding, namesJson Stage.name e.visibility, e.type.toJson, .null]

def GroupEntry.toJson (e : GroupEntry) : Json :=
  let (kind, id) : String × Json := match e.resource with
    | .buffer b => ("buffer", b.toJson)
    | .view v => ("view", v.toJson)
    | .sampler s => ("sampler", s.toJson)
  .list [.ofWord e.binding, .str kind, id]

def StageFunction.toJson (f : StageFunction) : List Json := [f.module.toJson, .str f.entryPoint]

def VertexLayout.toJson (l : VertexLayout) : Json :=
  let part (a : VertexAttribute) : Json :=
    .list [.str a.format.name, .ofNat a.offset, .ofNat a.location]
  .list [.ofNat l.stride, .str "Vertex", .ofList part l.attributes]

def DepthTest.toJson (t : DepthTest) : Json := .list
  [.str t.format.name, .bool t.writes, t.compare.toJson, .bool true, .bool true]

def RenderPipelineDescription.toJson (p : RenderPipelineDescription) : Json :=
  let target (f : TextureFormat) : Json := .list [.str f.name, .bool false, .bool true]
  .object
    [("label", .str p.label), ("layout", p.layout.toJson), ("vertex", .list p.vertex.toJson),
     ("buffers", .ofList VertexLayout.toJson p.buffers), ("topology", .str p.topology.name),
     ("plain_primitive", .bool true), ("depth", .ofOption DepthTest.toJson p.depth),
     ("multisample", .list [.ofWord p.sampleCount, .ofWord p.sampleMask, .bool false]),
     ("fragment", .list (p.fragment.toJson ++ [.ofList target p.targets]))]

def ModuleSource.toJson : ModuleSource → Json
  | wgsl text => .list [.str "wgsl", .ofText text]
  | spirv words => .list [.str "spirv", .ofList .ofWord words]

/-! ## Commands -/

def Load.toJson {T : Type} (encode : T → Json) : Load T → Json
  | keep => .str "load"
  | clear value => encode value

def ColourAttachment.toJson (a : ColourAttachment) : Json := .list
  [a.view.toJson, a.load.toJson fun c => .ofList Double.toJson c.toList, .str "Store", .bool false]

def DepthAttachment.toJson (a : DepthAttachment) : Json :=
  let operation {T : Type} (encode : T → Json) (load : Load T) : Json :=
    .list [load.toJson encode, .str "Store"]
  .list [a.view.toJson, operation Single.toJson a.depth, .ofOption (operation .ofWord) a.stencil]

def Command.toJson (c : Command) : Json :=
  let named (name : String) (operands : List Json) : Json := .list (.str name :: operands)
  match c with
  | renderPass label colours depth => named "render_pass"
    [.str label, .ofList ColourAttachment.toJson colours, .ofOption DepthAttachment.toJson depth]
  | computePass label => named "compute_pass" [.str label]
  | endPass => named "end_pass" []
  | setRenderPipeline pipeline => named "set_pipeline" [pipeline.toJson]
  | setComputePipeline pipeline => named "set_pipeline" [pipeline.toJson]
  | setBindGroup group => named "set_bind_group" [.ofNat 0, group.toJson, .list []]
  | setVertexBuffer index buffer => named "set_vertex_buffer" [.ofNat index, buffer.toJson]
  | setViewport viewport => named "set_viewport" [viewport.toJson]
  | draw vertices instances =>
    named "draw" [.ofNat 0, .ofWord vertices, .ofNat 0, .ofWord instances]
  | dispatch x y z => named "dispatch" [.ofWord x, .ofWord y, .ofWord z]
  | copyBuffer source target size => named "copy_buffer_to_buffer"
    [source.toJson, .ofNat 0, target.toJson, .ofNat 0, .ofNat size.toNat]
  | copyTexture source target size =>
    named "copy_texture_to_texture" [source.toJson, target.toJson, size.toJson]
  | readTexture source target layout size => named "copy_texture_to_buffer"
    [source.toJson, target.toJson, layout.toJson, size.toJson]

/-! ## Calls -/

/-- A call with its answer as a list of its name, the object that it created and its
    operands; `none` for what is no call of its own. -/
def Call.parts? : (c : Call) → c.Answer → Option (List Json)
  | requestAdapter interfaces, _ => some
    [.str "request_adapter", namesJson Interface.name interfaces, .str "HighPerformance",
     .bool false]
  | requestDevice label features, _ => some
    [.str "request_device", .str label, namesJson Feature.name features, .bool true,
     .str "Performance"]
  | pushErrorScope, _ => some [.str "push_error_scope", .str "Validation"]
  | popErrorScope, error => some [.str "pop_error_scope", .bool error.isSome]
  | poll, result => some [.str "poll", .str "Wait", .bool result.finished.isOk]
  | createBuffer desc, o => some
    [.str "create_buffer", o.toJson, .str desc.label, .ofNat desc.size.toNat,
     namesJson BufferUsage.name desc.usage, .bool false]
  | createBufferWith label contents usage, o => some
    [.str "create_buffer_init", o.toJson, .str label, .ofBytes contents,
     namesJson BufferUsage.name usage]
  | writeBuffer buffer contents, _ => some
    [.str "write_buffer", buffer.toJson, .ofNat 0, .ofBytes contents]
  | map buffer, _ => some [.str "map", buffer.toJson, .str "Read"]
  | mapped _, _ => none
  | unmap buffer, _ => some [.str "unmap", buffer.toJson]
  | destroyBuffer buffer, _ => some [.str "destroy_buffer", buffer.toJson]
  | createTexture desc, o => some
    [.str "create_texture", o.toJson, .str desc.label, desc.size.toJson, .ofWord desc.levelCount,
     .ofWord desc.sampleCount, .str desc.dimension.name, .str desc.format.name,
     namesJson TextureUsage.name desc.usage, .ofNat 0]
  | writeTexture w, _ => some
    [.str "write_texture", w.place.toJson, .ofBytes w.contents, w.layout.toJson, w.size.toJson]
  | destroyTexture texture, _ => some [.str "destroy_texture", texture.toJson]
  | createView texture desc, o => some
    [.str "create_view", o.toJson, texture.toJson, .null, .null,
     .ofOption (fun d => .str d.name) desc.dimension, desc.aspect.toJson,
     .list [.ofNat 0, .ofOption .ofWord desc.levelCount, .ofWord desc.firstLayer,
       .ofOption .ofWord desc.layerCount]]
  | createSampler label s, o => some
    [.str "create_sampler", o.toJson, .str label, coordinatesJson AddressMode.name s.address,
     namesJson filterName [s.min, s.mag, s.mip], detailRange,
     .ofOption ComparisonFunc.toJson s.compare, .ofNat 1, borderJson s.border]
  | createShaderModule label source, o => some
    [.str "create_shader_module", o.toJson, .str label, source.toJson]
  | createBindGroupLayout label entries, o => some
    [.str "create_bind_group_layout", o.toJson, .str label, .ofList LayoutEntry.toJson entries]
  | createBindGroup label layout entries, o => some
    [.str "create_bind_group", o.toJson, .str label, layout.toJson,
     .ofList GroupEntry.toJson entries]
  | createPipelineLayout label groups, o => some
    [.str "create_pipeline_layout", o.toJson, .str label, .ofList Object.toJson groups, .ofNat 0]
  | createRenderPipeline desc, o => some [.str "create_render_pipeline", o.toJson, desc.toJson]
  | createComputePipeline label layout function, o => some
    ([.str "create_compute_pipeline", o.toJson, .str label, layout.toJson] ++ function.toJson)
  | submit label commands, _ => some
    [.str "submit", .str label, .ofList Command.toJson commands]
  | report _, _ => none

/-- The record of an event, if it belongs into one. -/
def Event.toJson? (f : RecordFilter) : Event → Option Json
  | call (.report entry) _ => if f.full then some entry.toJson else none
  | call c answer => (c.parts? answer).map fun parts => .object [("gpu", .list parts)]
  | request q => if f.keeps q then some (q.toJson fun _ => .null) else none

/-- The records of events, the last of which comes first. -/
def recordsOf (f : RecordFilter) (events : List Event) : List Json :=
  (events.reverse).filterMap (Event.toJson? f)

end Gpu

def Readback.toJson (r : Readback) : Json := .object
  [("format", r.format.toJson), ("width", .ofWord r.width), ("height", .ofWord r.height),
   ("depth", .ofWord r.depth), ("row_pitch", .ofNat r.rowPitch), ("texel_size", .ofNat r.texelSize),
   ("data", .ofByteArray r.data)]

end ShaderConformance
