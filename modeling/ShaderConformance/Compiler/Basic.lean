import ShaderConformance.Bytes
import ShaderConformance.Capabilities.Basic
import ShaderConformance.Compiler.Tool
import ShaderConformance.Gpu.Register

/-!
# The compiler of the graphics backend

It has vertex, pixel and compute shaders.  WGSL is analysed as it is; HLSL is compiled
by the external tool, from model 6.0 on, and the result is analysed.  The tool is told
to shift registers to the bindings of the convention.
-/

namespace ShaderConformance.Compiler

/-- The stages that devices have. -/
def supports (type : ShaderType) : Bool :=
  type = .vertex ∨ type = .pixel ∨ type = .compute

/-- The target profile for a stage and model. -/
def profile (type : ShaderType) (model : ShaderModel) : String :=
  s!"{type.profileLetters}_{model.version.1}_{model.version.2}"

/-- The arguments that shift the registers of a kind to their bindings. -/
def shift (kind : String) (base : UInt32) : List String :=
  [s!"-fvk-{kind}-shift", toString base, "0"]

/-- The argument for a compile option, if it matters to the tool. -/
def optionArgument? : CompileOption → Option String
  | .rowMajor => some "-Zpr"
  | .columnMajor => some "-Zpc"
  | .backcompat => some "-Gec"
  | .childEffect | .includeEmptyBuffers => none

/-- The arguments that compile a source to SPIR-V. -/
def compileArguments (type : ShaderType) (model : ShaderModel) (options : CompileOptions) :
    List Argument :=
  let literals :=
    ["-T", profile type model, "-E", "main", "-spirv"] ++ shift "b" Gpu.uniformBinding ++
    shift "t" Gpu.textureBase ++ shift "u" Gpu.uavBase ++ shift "s" Gpu.samplerBase ++
    options.toList.filterMap optionArgument? ++ ["-Fo"]
  literals.map Argument.literal ++ [.output "spv", .input]

/-- The arguments that preprocess a source. -/
def preprocessArguments : List Argument :=
  [.literal "-P", .literal "-Fi", .output "i", .input]

/-- The words of little-endian bytes, four to a word. -/
def wordsOf : List UInt8 → Option (List UInt32)
  | [] => some []
  | a :: b :: c :: d :: more =>
    (wordsOf more).map (UInt32.ofNat (littleEndian [a, b, c, d]) :: ·)
  | _ => none

/-- A reason and what it is about. -/
def about (what file reason : String) : String := s!"{what} {file}: {reason}"

/-- Runs a tool, and gives its result with the name of the file. -/
def runTool (tool : String) (r : ToolRun) :
    Program (Except CompileError (String × List UInt8)) := do
  match ← ask (.run r) with
  | .missing => return .error (.notImplemented s!"{tool} not found")
  | .notStarted reason => return .error (.failed (about "running" tool reason))
  | .rejected diagnostics => return .error (.failed (String.ofList (Text.trim diagnostics)))
  | .finished file (.error reason) => return .error (.failed (about "reading" file reason))
  | .finished file (.ok bytes) => return .ok (file, bytes)

/-- Compiles HLSL. -/
def compileHlsl (tool : String) (text : Text) (type : ShaderType) (model : ShaderModel)
    (options : CompileOptions) : Program (Except CompileError ShaderCode) := do
  if model.era ≠ .modern then
    return .error (.notImplemented s!"HLSL at shader model {model} needs a DXBC compiler")
  match ← runTool tool ⟨compileArguments type model options, text⟩ with
  | .error error => return .error error
  | .ok (_, bytes) =>
    match wordsOf bytes with
    | some words => return .ok (.spirv words)
    | none => return .error (.failed "dxc produced truncated SPIR-V")

/-- The code of a source for a stage that devices have. -/
def codeOf (tool : String) (source : ShaderSource) (type : ShaderType) (model : ShaderModel)
    (options : CompileOptions) : Program (Except CompileError ShaderCode) :=
  match source.format with
  | .wgsl => return .ok (.wgsl source.text)
  | .hlsl => compileHlsl tool source.text type model options
  | format => return .error (.notImplemented s!"{format} sources")

/-- Compiles a shader. -/
def compile (tool : String) (source : ShaderSource) (type : ShaderType) (model : ShaderModel)
    (options : CompileOptions) : Program (Except CompileError CompiledShader) := do
  if ¬ supports type then return .error (.notImplemented s!"{type}s")
  match ← codeOf tool source type model options with
  | .error error => return .error error
  | .ok code =>
    match ← ask (.analyse code type) with
    | .error reason => return .error (.failed reason)
    | .ok analysis => return .ok ⟨type, model, code, analysis.entryPoint, analysis.bindings⟩

/-- Preprocesses a source. -/
def preprocess (tool : String) (text : Text) : Program (Except CompileError Text) := do
  match ← runTool tool ⟨preprocessArguments, text⟩ with
  | .error error => return .error error
  | .ok (file, bytes) =>
    match String.fromUTF8? ⟨bytes.toArray⟩ with
    | some result => return .ok result.toList
    | none =>
      return .error (.failed (about "reading" file "stream did not contain valid UTF-8"))

/-- What is left of capabilities with the tool or without it: the tool has no models before
    6.0, and without it there is no HLSL. -/
def restricted (caps : Capabilities) (hasTool : Bool) : Capabilities :=
  if hasTool then { caps with minimumModel := max caps.minimumModel .sm6_0 }
  else { caps with sourceFormats := caps.sourceFormats.filter (· ≠ .hlsl) }

/-- Restricts capabilities to what can be compiled. -/
def restrict (caps : Capabilities) : Program Capabilities := do
  return restricted caps (← ask .starts)

end ShaderConformance.Compiler
