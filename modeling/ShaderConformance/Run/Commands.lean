import ShaderConformance.Command.Reading
import ShaderConformance.Run.Resources
import ShaderConformance.Run.Shaders

/-!
# Test lines of a run

A test line is executed as soon as it is read, unless a resource or a shader of the
run failed.  Commands that set state only change the session; the others ask the
backend, and what fails there is a check that fails.
-/

namespace ShaderConformance.Step

variable {H : Type}

/-- Where a line stands and what is expected of it. -/
structure Spot where
  line : Nat
  todo : Bool
  bug : Bool
deriving DecidableEq, Repr

/-- A check at a spot. -/
def Spot.check (spot : Spot) (ok : Bool) (message : String) : Check :=
  { ok, todo := spot.todo, bug := spot.bug, line := spot.line, message }

/-- A failed check, unless something succeeded. -/
def expectSuccess {E : Type} (context : RunContext) (spot : Spot) (ok : Bool)
    (message : String) : Step H E Unit :=
  if ok then return else check context (spot.check false message)

/-- Remembers and checks the success of a draw or dispatch. -/
def rendered {E : Type} (context : RunContext) (spot : Spot) (ok : Bool) (message : String) :
    Step H E Unit := do
  modifySession fun s => { s with lastRenderFailed := !ok }
  expectSuccess context spot ok message

/-- Clears a resource. -/
def clear (context : RunContext) (spot : Spot) (ref : ResourceRef) (value : ClearValue)
    (message : String) : Step H Fault Unit := do
  let resource ← lookup ref
  expectSuccess context spot (← ask (.clear resource value)) message

/-- What keeps one resource from being copied to another. -/
def copyMismatch? (s t : ResourceDesc) : Option CopyMismatch :=
  if s.dimension ≠ t.dimension ∨ (s.width, s.height, s.depth) ≠ (t.width, t.height, t.depth) then
    some .dimensions
  else if s.format ≠ t.format ∨ s.texelSize ≠ t.texelSize then some .format
  else if (s.levelCount, s.sampleCount, s.layerCount) ≠
      (t.levelCount, t.sampleCount, t.layerCount) then some .counts
  else none

/-- Copies a resource. -/
def copy (context : RunContext) (spot : Spot) (source target : ResourceRef) :
    Step H Fault Unit := do
  let s ← lookup source
  let t ← lookup target
  match copyMismatch? s.desc t.desc with
  | some mismatch => refuse (.copyMismatch mismatch)
  | none =>
    expectSuccess context spot (← ask (.copy s t)) s!"Copying {source} to {target} failed."

/-! ## Probes -/

/-- The subresource that a probe reads, and the rectangle in it.  The layers of a
    volume are depth slices of its one subresource. -/
def probeArea (resource : ResourceDesc) (target : ResourceRef) (rect : ProbeRect) :
    Except Fault (UInt32 × ProbeRect) :=
  if resource.dimension = .texture3d then .ok (0, rect)
  else if resource.layerCount ≤ rect.layer then .error (.probeLayer rect.layer target)
  else
    match resource.subresourceIndex 0 rect.layer with
    | .ok index => .ok (index, { rect with layer := 0 })
    | .error e => .error (.arithmetic e)

/-- Refuses a value or a rectangle that does not fit some contents. -/
def checkProbe (r : Readback) (rect : ProbeRect) (value : ProbeValue) : Except Fault Unit :=
  if ¬ value.fits r then .error (.probeValue value.text r.format)
  else if r.width < rect.right ∨ r.height < rect.bottom ∨ r.depth ≤ rect.layer then
    .error (.probeRectangle r.width r.height r.depth)
  else .ok ()

/-- Compares some contents with an expected value. -/
def compareProbe (context : RunContext) (spot : Spot) (r : Readback) (rect : ProbeRect)
    (value : ProbeValue) (steps : UInt32) : Step H Fault Unit :=
  match r.verdict rect value steps with
  | .error e => refuse (.arithmetic e)
  | .ok none => check context (spot.check true s!"Probe matched {value}.")
  | .ok (some mismatch) => check context (spot.check false mismatch.message)

/-- Reads a resource back and compares it with an expected value. -/
def readProbe (context : RunContext) (spot : Spot) (target : ResourceRef) (rect : ProbeRect)
    (value : ProbeValue) (steps : UInt32) : Step H Fault Unit := do
  let resource ← lookup target
  let (subresource, rect) ← ofExcept (probeArea resource.desc target rect)
  match ← ask (.readback resource subresource) with
  | .error e => refuse (.arithmetic e)
  | .ok none => check context (spot.check false s!"Reading back {target} failed.")
  | .ok (some r) =>
    ofExcept (checkProbe r rect value)
    compareProbe context spot r rect value steps

/-- Executes a probe.  After a failed draw or dispatch it is not reported. -/
def probe (context : RunContext) (spot : Spot) (target : ResourceRef) (rect : ProbeRect)
    (value : ProbeValue) (steps : UInt32) : Step H Fault Unit := do
  if (← session).lastRenderFailed then
    log .trace
      s!"{context.file}:{spot.line}: Probe not reported after a failed draw or dispatch"
  else readProbe context spot target rect value steps

/-! ## The quad -/

/-- The vertex shader of a quad for pixel shaders in WGSL. -/
def quadShaderWgsl : ShaderSource where
  text := ("@vertex\nfn main(@location(0) position: vec2<f32>) -> @builtin(position) vec4<f32> " ++
    "\x7b\n    return vec4<f32>(position, 0.0, 1.0);\n\x7d\n").toList
  format := .wgsl

/-- The vertex shader of a quad for all other pixel shaders. -/
def quadShaderHlsl : ShaderSource where
  text := "float4 main(float4 pos : position) : sv_position\n\x7b\n    return pos;\n\x7d\n".toList
  format := .hlsl

/-- The vertices of a quad: one triangle that covers the whole viewport. -/
def quadVertices : List UInt8 :=
  let low : UInt32 := 0xc0000000
  let high : UInt32 := 0x40800000
  [low, low, low, high, high, low].flatMap wordBytes

/-- The only attribute of a quad. -/
def quadElement : InputElement where
  semanticName := "position"
  semanticIndex := 0
  slot := 0
  format := .r32G32Float
  texelSize := Format.texelSize .r32G32Float

/-- The render target of a quad when there is none. -/
def quadTarget : ResourceDesc :=
  { ResourceDesc.fresh .renderTarget 0 with width := 640, height := 480 }

/-- The vertex buffer of a quad. -/
def quadBuffer : ResourceDesc :=
  { ResourceDesc.fresh .vertexBuffer 0 with
    format := .r32G32Float
    texelSize := Format.texelSize .r32G32Float
    width := UInt32.ofNat quadVertices.length }

/-- The vertex shader of a quad for the pixel shader of a session. -/
def quadShader (s : Session H) : ShaderSource :=
  match (s.stage .pixel).source with
  | some ⟨_, .wgsl⟩ => quadShaderWgsl
  | _ => quadShaderHlsl

/-- Makes sure that there is a render target; whether there is one. -/
def ensureTarget (context : RunContext) (line : Nat) : Step H Fault Bool := do
  match (← session).registry.get? quadTarget.ref with
  | some _ => return true
  | none => createResource context quadTarget [] line

/-- Compiles the vertex shader of a quad; whether it compiled. -/
def compileQuad {E : Type} (context : RunContext) (spot : Spot) : Step H E Bool := do
  let s ← session
  let source := quadShader s
  let result ← compile source .vertex s.minimumModel
  note (.store .vertex source)
  modifySession fun s => (s.setSource .vertex source).setCompiled .vertex s.minimumModel
    result.toOption
  match result with
  | .ok _ => return true
  | .error error =>
    check context (spot.check false s!"Compiling the quad vertex shader: {error.message}")
    return false

/-- Draws a triangle over the whole viewport with a vertex shader that passes its input
    on. -/
def drawQuad (context : RunContext) (spot : Spot) : Step H Fault Unit := do
  -- A quad that lacks a part is given up; what was made for it stays.
  unless ← ensureTarget context spot.line do return
  modifySession fun s => { s with inputElements := [quadElement] }
  unless ← compileQuad context spot do return
  unless ← createResource context quadBuffer quadVertices spot.line do return
  let ok ← ask (.draw (← session).renderState .triangleList 3 1)
  rendered context spot ok "Drawing the quad failed."

/-! ## Lines -/

/-- Changes the fixed-function state. -/
def modifyFixed {E : Type} (f : FixedFunctionState → FixedFunctionState) : Step H E Unit :=
  modifySession fun s => { s with fixed := f s.fixed }

/-- Executes a command. -/
def execute (context : RunContext) (spot : Spot) : Command → Step H Fault Unit
  | .dispatch x y z => do
    let ok ← ask (.dispatch (← session).renderState x y z)
    rendered context spot ok "Dispatch failed."
  | .clearTarget slot colour =>
    clear context spot ⟨.renderTarget, slot⟩ (.colour colour) s!"Clearing rtv {slot} failed."
  | .clearDepth depth =>
    clear context spot ⟨.depthStencil, 0⟩ (.depth depth) "Clearing dsv failed."
  | .depthFunc func => modifyFixed fun f => { f with depthFunc := func }
  | .depthBounds min max => modifyFixed fun f => { f with depthBounds := some (min, max) }
  | .drawQuad => drawQuad context spot
  | .draw topology vertices instances => do
    let ok ← ask (.draw (← session).renderState topology vertices instances)
    rendered context spot ok "Draw failed."
  | .copy source target => copy context spot source target
  | .probe target rect value steps => probe context spot target rect value steps
  | .uniform offset data => modifySession fun s => s.writeUniform offset data
  | .sampleMask mask => modifyFixed fun f => { f with sampleMask := mask }
  | .alphaTest test => modifyFixed fun f => { f with alphaTest := test }
  | .shadeMode mode => modifyFixed fun f => { f with shadeMode := mode }
  | .clipPlane index plane =>
    modifyFixed fun f => { f with clipPlanes := f.clipPlanes.set index plane index.isLt }
  | .pointSize size => modifyFixed fun f => { f with pointSize := size }
  | .pointSprite enabled => modifyFixed fun f => { f with pointSprite := enabled }
  | .fog mode => modifyFixed fun f => { f with fog := mode }
  | .fogColour colour => modifyFixed fun f => { f with fogColour := colour }
  | .viewport index viewport =>
    modifySession fun s => { s with viewports := s.viewports.set index (some viewport) index.isLt }

/-- The context of qualifiers in a run. -/
def qualifierContext {E : Type} (context : RunContext) : Step H E QualifierContext := do
  return ⟨(← session).minimumModel, context.caps.tags⟩

/-- Executes a test line that was read, unless a resource or shader failed. -/
def runCommand (context : RunContext) (t : TestLine) (line : Nat) : Step H Fault Unit := do
  turnTo (.read line t)
  refreshStages context ShaderType.all
  -- Recompiling may have failed just now, so the session is asked again.
  let s ← session
  if s.registry.hasFailures ∨ s.hasFailedShader then
    log .trace s!"{context.file}:{line}: Not executed after a failed resource or shader"
  else
    turnTo (.execute line t)
    execute context ⟨line, t.todo, t.bug⟩ t.command

/-- Reads and executes a test line, if tests are executed at all. -/
def runTestLine (context : RunContext) (text : Text) (line : Nat) : Step H Fault Unit := do
  if (← session).action = .run then
    match ← ofExcept (TestLine.read (← qualifierContext context) text) with
    | none => return
    | some t => runCommand context t line

end ShaderConformance.Step
