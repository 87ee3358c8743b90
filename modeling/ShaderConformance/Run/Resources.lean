import ShaderConformance.Run.Basic

/-!
# Resources of a run
-/

namespace ShaderConformance.Step

variable {H : Type}

/-- The live resource of a name. -/
def lookup (ref : ResourceRef) : Step H Fault (Resource H) := do
  match (← session).registry.get? ref with
  | some resource => return resource
  | none => refuse (.noResource ref)

/-- The log entry of a creation. -/
def creationText (context : RunContext) (desc : ResourceDesc) (line : Nat) : String :=
  s!"{context.file}:{line}: Creating {desc.ref} " ++
    s!"({desc.width}x{desc.height}x{desc.depth} {desc.format})"

/-- Makes a created resource live, and destroys the one that it replaces. -/
def register (desc : ResourceDesc) (handle : H) : Step H Fault Unit := do
  modifySession fun s => { s with registry := s.registry.clearFailed desc.ref }
  -- A full registry stops the run here, with the registry as it was: nothing owns the handle.
  let (result, registry) := (← session).registry.insert ⟨desc, handle⟩
  modifySession fun s => { s with registry }
  match ← ofExcept result with
  | some old => ask (.destroy old)
  | none => return

/-- Remembers and reports that a creation failed. -/
def creationFailed (context : RunContext) (desc : ResourceDesc) (line : Nat)
    (error : BackendError) : Step H Fault Unit := do
  modifySession fun s => { s with registry := s.registry.markFailed desc.ref }
  match error with
  | .unsupported reason => skip context line s!"{desc.ref}: {reason}"
  | .failed reason =>
    check context { ok := false, todo := false, bug := false, line
                    message := s!"Failed to create {desc.ref}: {reason}" }

/-- Creates a resource; whether it exists now. -/
def createResource (context : RunContext) (desc : ResourceDesc) (data : List UInt8)
    (line : Nat) : Step H Fault Bool := do
  log .debug (creationText context desc line)
  match ← ask (.create desc data) with
  | .ok handle =>
    register desc handle
    return true
  | .error error =>
    creationFailed context desc line error
    return false

/-- The description that a finished resource block stands for: a vertex buffer is as
    wide as its payload has bytes. -/
def finalDesc (block : ResourceBlock) : ResourceDesc :=
  if block.desc.type = .vertexBuffer then
    { block.desc with width := UInt32.ofNat block.data.length }
  else block.desc

/-- Refuses a finished resource block that describes no resource. -/
def checkedDesc (block : ResourceBlock) : Except Fault ResourceDesc :=
  let desc := finalDesc block
  if desc.type = .uav ∧ ¬ block.explicitFormat then .error (.uavFormat desc.slot)
  else if desc.maxLevelCount < desc.levelCount.toNat then
    .error (.tooManyLevels desc.ref desc.levelCount desc.maxLevelCount)
  else .ok desc

/-- Ends a resource block. -/
def finishResource (context : RunContext) (block : ResourceBlock) (line : Nat) :
    Step H Fault Unit := do
  let desc ← ofExcept (checkedDesc block)
  if context.mode = .run ∧ (← session).action ≠ .skip then
    let _ ← createResource context desc block.data line

/-- Ends a sampler block. -/
def finishSampler (sampler : SamplerDesc) : Step H Fault Unit := do
  let (result, registry) := (← session).registry.setSampler sampler
  modifySession fun s => { s with registry }
  ofExcept result

/-- Destroys resources. -/
def destroyAll {E : Type} : List (Resource H) → Step H E Unit
  | [] => return
  | resource :: more => do
    ask (.destroy resource)
    destroyAll more

/-- Destroys every live resource. -/
def teardown {E : Type} : Step H E Unit := do
  let (resources, registry) := (← session).registry.drain
  modifySession fun s => { s with registry }
  destroyAll resources

end ShaderConformance.Step
