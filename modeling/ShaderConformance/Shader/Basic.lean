import ShaderConformance.Format
import ShaderConformance.Model.Basic

/-!
# Shaders

A shader is source text for one stage of the pipeline.  A compiler turns it into
code for a shader model, or says why it does not.
-/

namespace ShaderConformance

/-- The stage of the pipeline that a shader belongs to. -/
inductive ShaderType where
  | vertex
  | pixel
  | hull
  | domain
  | geometry
  | compute
  | effect
deriving DecidableEq, Repr, Inhabited

namespace ShaderType

/-- Every stage, in order. -/
def all : List ShaderType := [vertex, pixel, hull, domain, geometry, compute, effect]

/-- The keyword in block headers. -/
def name : ShaderType → String
  | vertex => "vertex shader"
  | pixel => "pixel shader"
  | hull => "hull shader"
  | domain => "domain shader"
  | geometry => "geometry shader"
  | compute => "compute shader"
  | effect => "effect"

instance : ToString ShaderType := ⟨name⟩

/-- The letters that open a target profile, as in `ps_5_0`. -/
def profileLetters : ShaderType → String
  | vertex => "vs"
  | pixel => "ps"
  | hull => "hs"
  | domain => "ds"
  | geometry => "gs"
  | compute => "cs"
  | effect => "fx"

end ShaderType

/-- The language or container of a shader's source. -/
inductive SourceFormat where
  | hlsl
  | wgsl
  /-- Bytecode of the oldest models, as hexadecimal digits. -/
  | d3dbcHex
  /-- A container with bytecode of the middle models, as hexadecimal digits. -/
  | dxbcTpfHex
  /-- A container with bytecode of the newest models, as hexadecimal digits. -/
  | dxbcDxilHex
deriving DecidableEq, Repr, Inhabited

namespace SourceFormat

def all : List SourceFormat := [hlsl, wgsl, d3dbcHex, dxbcTpfHex, dxbcDxilHex]

/-- The name in block headers. -/
def name : SourceFormat → String
  | hlsl => "hlsl"
  | wgsl => "wgsl"
  | d3dbcHex => "d3dbc-hex"
  | dxbcTpfHex => "dxbc-tpf-hex"
  | dxbcDxilHex => "dxbc-dxil-hex"

instance : ToString SourceFormat := ⟨name⟩

/-- Every format under its name. -/
def table : List (String × SourceFormat) := all.map fun f => (f.name, f)

/-- Whether the source is precompiled code, written as hexadecimal digits. -/
def isHex (f : SourceFormat) : Bool := f = d3dbcHex ∨ f = dxbcTpfHex ∨ f = dxbcDxilHex

def ofName? (name : String) : Option SourceFormat := all.find? (·.name = name)

/-- The format with a name, or that there is none. -/
def parse (name : String) : Except UnknownName SourceFormat :=
  named "source format" name (ofName? name)

end SourceFormat

/-- An option that a test passes to the compiler. -/
inductive CompileOption where
  | rowMajor
  | columnMajor
  | backcompat
  | childEffect
  | includeEmptyBuffers
deriving DecidableEq, Repr, Inhabited

namespace CompileOption

def all : List CompileOption :=
  [rowMajor, columnMajor, backcompat, childEffect, includeEmptyBuffers]

def name : CompileOption → String
  | rowMajor => "row-major"
  | columnMajor => "column-major"
  | backcompat => "backcompat"
  | childEffect => "child-effect"
  | includeEmptyBuffers => "include-empty-buffers"

def ofName? (name : String) : Option CompileOption := all.find? (·.name = name)

end CompileOption

/-- A set of compile options. -/
structure CompileOptions where
  has : CompileOption → Bool

namespace CompileOptions

def none : CompileOptions := ⟨fun _ => false⟩

def insert (o : CompileOption) (s : CompileOptions) : CompileOptions :=
  ⟨fun x => x = o || s.has x⟩

/-- The options of the set, in their usual order. -/
def toList (s : CompileOptions) : List CompileOption := CompileOption.all.filter s.has

end CompileOptions

/-- The outcome of compiling a shader. -/
inductive CompileStatus where
  | ok
  | fail
  | notImplemented
deriving DecidableEq, Repr, Inhabited

def CompileStatus.name : CompileStatus → String
  | ok => "success"
  | fail => "failure"
  | notImplemented => "not implemented"

instance : ToString CompileStatus := ⟨CompileStatus.name⟩

/-- Source text with its format. -/
structure ShaderSource where
  text : Text
  format : SourceFormat
deriving DecidableEq, Repr, Inhabited

/-- What a shader binds at an index. -/
inductive BindingKind where
  | uniformBuffer
  | storageBuffer (readOnly : Bool)
  | texture (multisampled : Bool)
  | storageTexture
  | sampler (comparison : Bool)
deriving DecidableEq, Repr

/-- A binding that a compiled shader uses. -/
structure ShaderBinding where
  binding : UInt32
  kind : BindingKind
deriving DecidableEq, Repr

/-- Code in the form that the compiler gave it. -/
inductive ShaderCode where
  | wgsl (text : Text)
  | spirv (words : List UInt32)
  | bytecode (bytes : List UInt8)
deriving DecidableEq, Repr

/-- A shader that was compiled. -/
structure CompiledShader where
  type : ShaderType
  model : ShaderModel
  code : ShaderCode
  entryPoint : String
  bindings : List ShaderBinding
deriving DecidableEq, Repr

/-- Why a compiler gave no code. -/
inductive CompileError where
  /-- The source was rejected. -/
  | failed (reason : String)
  /-- The source, stage or model is not supported. -/
  | notImplemented (reason : String)
deriving DecidableEq, Repr

def CompileError.message : CompileError → String
  | failed reason => s!"compilation failed: {reason}"
  | notImplemented reason => s!"not implemented: {reason}"

/-- The outcome that a result stands for. -/
def CompileStatus.of {T : Type} : Except CompileError T → CompileStatus
  | .ok _ => .ok
  | .error (.failed _) => .fail
  | .error (.notImplemented _) => .notImplemented

end ShaderConformance
