import ShaderConformance.Gpu.Binding

/-!
# Draws and dispatches

A draw is recorded as one render pass with a pipeline of its own: the attachments are
the live render targets and depth texture, the vertex layouts follow from the input
elements, and group 0 holds everything that the shaders bind.
-/

namespace ShaderConformance.Gpu

/-! ## Shaders and uniforms -/

/-- Code in a form that a device loads. -/
def ModuleSource.ofCode? : ShaderCode → Option ModuleSource
  | .wgsl text => some (.wgsl text)
  | .spirv words => some (.spirv words)
  | .bytecode _ => none

/-- Loads a shader. -/
def loadShader (shader : CompiledShader) : Attempt StageFunction := do
  let source ← Attempt.require (.bytecode shader.type) (ModuleSource.ofCode? shader.code)
  let object ← Attempt.call (.createShaderModule shader.type.name source)
  return ⟨object, shader.entryPoint⟩

/-- The fewest bytes of a uniform buffer. -/
def minUniformSize : Nat := 256

/-- A uniform buffer with fill bytes up to a multiple of sixteen. -/
def paddedUniforms (uniforms : List UInt8) : List UInt8 :=
  Uniforms.padTo uniforms (roundUp (max uniforms.length minUniformSize) 16)

/-- Creates the uniform buffer. -/
def createUniforms (uniforms : List UInt8) : Attempt (Object .buffer) :=
  Attempt.call (.createBufferWith "Uniform Buffer" (paddedUniforms uniforms) [.uniform])

/-! ## Vertices -/

/-- The layout of the vertices in one slot. -/
structure SlotLayout where
  slot : UInt32
  layout : VertexLayout
deriving DecidableEq, Repr

/-- A layout with another attribute at its end. -/
def VertexLayout.push (formats : FormatTraits) (l : VertexLayout) (format : VertexFormat)
    (location : Nat) : VertexLayout :=
  ⟨l.stride + formats.attributeBytes format, l.attributes ++ [⟨format, l.stride, location⟩]⟩

/-- A slot with its first attribute. -/
def SlotLayout.single (formats : FormatTraits) (slot : UInt32) (format : VertexFormat)
    (location : Nat) : SlotLayout :=
  ⟨slot, VertexLayout.push formats ⟨0, []⟩ format location⟩

/-- Puts an attribute at the end of its slot.  The slots are in ascending order. -/
def addAttribute (formats : FormatTraits) (slot : UInt32) (format : VertexFormat)
    (location : Nat) : List SlotLayout → List SlotLayout
  | [] => [.single formats slot format location]
  | s :: more =>
    if slot < s.slot then .single formats slot format location :: s :: more
    else if slot = s.slot then { s with layout := s.layout.push formats format location } :: more
    else s :: addAttribute formats slot format location more

/-- Adds the attributes of input elements, the first of which has a location. -/
def addElements (formats : FormatTraits) (slots : List SlotLayout) (location : Nat) :
    List InputElement → Except RenderFault (List SlotLayout)
  | [] => .ok slots
  | e :: more =>
    match e.format.vertex? with
    | none => .error (.notVertexFormat e.format)
    | some format =>
      addElements formats (addAttribute formats e.slot format location slots) (location + 1) more

/-- The layouts of the slots that input elements use.  The location of an attribute is
    the place of its element. -/
def slotLayouts (formats : FormatTraits) (elements : List InputElement) :
    Except RenderFault (List SlotLayout) :=
  addElements formats [] 0 elements

/-- The live vertex buffer of a slot. -/
def vertexBuffer (state : RenderState Handle) (slot : UInt32) :
    Except RenderFault (Object .buffer) :=
  match (state.registry.get? ⟨.vertexBuffer, slot⟩).map Resource.handle with
  | some (.buffer b) => .ok b.object
  | _ => .error (.undefinedVertexBuffer slot)

/-- What a draw reads vertices from: layouts, and as many buffers. -/
structure VertexInput where
  layouts : List VertexLayout
  buffers : List (Object .buffer)

/-- The vertex layouts and buffers of a draw. -/
def vertexInput (formats : FormatTraits) (state : RenderState Handle) :
    Except RenderFault VertexInput := do
  let slots ← slotLayouts formats state.inputElements
  let buffers ← slots.mapM fun s => vertexBuffer state s.slot
  return ⟨slots.map SlotLayout.layout, buffers⟩

/-! ## Attachments -/

/-- A view that is drawn to. -/
structure Target where
  view : Object .view
  format : TextureFormat

/-- The live render targets in the order of their slots. -/
def renderTargets (state : RenderState Handle) : List (Resource Handle) :=
  (state.registry.ofType .renderTarget).mergeSort fun a b => a.desc.slot ≤ b.desc.slot

/-- The texture of a resource, if it is one. -/
def textureOf? (resource : Resource Handle) : Option Texture :=
  match resource.handle with
  | .texture t => some t
  | .buffer _ => none

/-- Views a texture to draw to it. -/
def viewTarget (texture : Texture) : Attempt Target := do
  return ⟨← Attempt.call (.createView texture.object .whole), texture.format⟩

/-- Views textures to draw to them. -/
def viewTargets : List Texture → Attempt (List Target)
  | [] => return []
  | t :: more => do
    let target ← viewTarget t
    return target :: (← viewTargets more)

/-- Views the depth texture, if there is one. -/
def viewDepth (state : RenderState Handle) : Attempt (Option Target) :=
  match (state.registry.get? ⟨.depthStencil, 0⟩).bind textureOf? with
  | some t => some <$> viewTarget t
  | none => return none

/-- The samples of a texel in a draw: those of the render target with the lowest slot. -/
def sampleCount (targets : List (Resource Handle)) : UInt32 :=
  match targets with
  | [] => 1
  | r :: _ => r.desc.sampleCount

/-- The attachment that keeps what a colour target holds. -/
def keptColour (t : Target) : ColourAttachment := ⟨t.view, .keep⟩

/-- The attachment that keeps what a depth target holds. -/
def keptDepth (formats : FormatTraits) (t : Target) : DepthAttachment :=
  ⟨t.view, .keep, if formats.hasStencil t.format then some .keep else none⟩

/-- The depth test on a depth target; without a function every test passes. -/
def depthTest (fixed : FixedFunctionState) (t : Target) : DepthTest :=
  ⟨t.format, fixed.depthFunc.isSome, fixed.depthFunc.getD .always⟩

/-- The index of the first viewport from an index on that is set. -/
def setViewport? (index : Nat) : List (Option Viewport) → Option Nat
  | [] => none
  | some _ :: _ => some index
  | none :: more => setViewport? (index + 1) more

/-- The viewport of a draw; only the first one may be set. -/
def singleViewport (viewports : List (Option Viewport)) :
    Except RenderFault (Option Viewport) :=
  match setViewport? 1 (viewports.drop 1) with
  | some index => .error (.extraViewport index)
  | none => .ok viewports.head?.join

/-! ## Recording -/

/-- What a draw is recorded from. -/
structure DrawParts where
  group : Group
  targets : List Target
  depth : Option Target
  input : VertexInput
  viewport : Option Viewport

/-- The commands that bind vertex buffers from an index on. -/
def bindVertexBuffers (index : Nat) : List (Object .buffer) → List Command
  | [] => []
  | b :: more => .setVertexBuffer index b :: bindVertexBuffers (index + 1) more

/-- The commands of a draw. -/
def drawCommands (formats : FormatTraits) (parts : DrawParts)
    (pipeline : Object .renderPipeline) (vertices instances : UInt32) : List Command :=
  [.renderPass "Draw Pass" (parts.targets.map keptColour) (parts.depth.map (keptDepth formats)),
    .setRenderPipeline pipeline, .setBindGroup parts.group.group] ++
  bindVertexBuffers 0 parts.input.buffers ++
  (parts.viewport.map Command.setViewport).toList ++
  [.draw vertices instances, .endPass]

/-- The pipeline of a draw. -/
def drawPipeline (state : RenderState Handle) (parts : DrawParts)
    (layout : Object .pipelineLayout) (vertex pixel : StageFunction)
    (topology : PrimitiveTopology) : RenderPipelineDescription where
  label := "Draw Pipeline"
  layout := layout
  vertex := vertex
  buffers := parts.input.layouts
  topology := topology
  depth := parts.depth.map (depthTest state.fixed)
  sampleCount := sampleCount (renderTargets state)
  sampleMask := state.fixed.sampleMask
  fragment := pixel
  targets := parts.targets.map Target.format

/-- Makes a draw. -/
def encodeDraw (device : Device) (state : RenderState Handle) (vertex pixel : CompiledShader)
    (topology : PrimitiveTopology) (vertices instances : UInt32) : Attempt Unit := do
  -- What can be refused without a call is refused before the first one.
  let viewport ← Attempt.ofExcept (singleViewport state.viewports.toList)
  let vertexFunction ← loadShader vertex
  let pixelFunction ← loadShader pixel
  let uniforms ← createUniforms state.uniforms
  let group ← bindGroup device state uniforms [.vertex, .fragment]
    (mergeBindings vertex.bindings pixel.bindings)
  -- Attachments follow the order of the slots without gaps.
  let targets ← viewTargets ((renderTargets state).filterMap textureOf?)
  let depth ← viewDepth state
  let input ← Attempt.ofExcept (vertexInput device.formats state)
  let parts : DrawParts := ⟨group, targets, depth, input, viewport⟩
  let layout ← Attempt.call (.createPipelineLayout "Draw Pipeline Layout" [group.layout])
  let pipeline ← Attempt.call
    (.createRenderPipeline (drawPipeline state parts layout vertexFunction pixelFunction topology))
  Attempt.call
    (.submit "Draw Encoder" (drawCommands device.formats parts pipeline vertices instances))

/-- The commands of a dispatch. -/
def dispatchCommands (group : Object .bindGroup) (pipeline : Object .computePipeline)
    (x y z : UInt32) : List Command :=
  [.computePass "Dispatch Pass", .setComputePipeline pipeline, .setBindGroup group,
    .dispatch x y z, .endPass]

/-- Makes a dispatch. -/
def encodeDispatch (device : Device) (state : RenderState Handle) (compute : CompiledShader)
    (x y z : UInt32) : Attempt Unit := do
  let function ← loadShader compute
  let uniforms ← createUniforms state.uniforms
  let group ← bindGroup device state uniforms [.compute] compute.bindings
  let layout ← Attempt.call (.createPipelineLayout "Dispatch Pipeline Layout" [group.layout])
  let pipeline ← Attempt.call (.createComputePipeline "Dispatch Pipeline" layout function)
  Attempt.call (.submit "Dispatch Encoder" (dispatchCommands group.group pipeline x y z))

end ShaderConformance.Gpu
