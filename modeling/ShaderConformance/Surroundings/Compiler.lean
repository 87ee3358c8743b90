import ShaderConformance.Run.Request

/-!
# A compiler that follows a script

It refuses sources with the word `FAIL`, and whatever its script says; every other
source becomes a shader without being looked at.
-/

namespace ShaderConformance

/-- The form of the code that the compiler gives. -/
inductive CodeKind where
  | wgsl
  | spirv
  | bytecode
deriving DecidableEq, Repr

/-- What a scripted compiler does. -/
structure CompilerScript where
  /-- The models at which compiling fails. -/
  fails : ShaderModel → Bool
  /-- The models at which nothing is implemented. -/
  notImplemented : ShaderModel → Bool
  /-- The stages that fail. -/
  failsType : ShaderType → Bool
  /-- Whether there is a preprocessor. -/
  preprocesses : Bool
  code : ShaderType → CodeKind
  bindings : ShaderType → List ShaderBinding

namespace CompilerScript

/-- The UTF-8 bytes of a text. -/
def utf8 (text : Text) : List UInt8 := (String.ofList text).toUTF8.data.toList

/-- Code for a source. -/
def codeOf (text : Text) : CodeKind → ShaderCode
  | .wgsl => .wgsl text
  | .spirv => .spirv [0x07230203, UInt32.ofNat (utf8 text).length]
  | .bytecode => .bytecode (utf8 text)

/-- Compiles a source. -/
def compile (script : CompilerScript) (source : ShaderSource) (type : ShaderType)
    (model : ShaderModel) : Except CompileError CompiledShader :=
  let text := source.text
  if Text.contains text "FAIL".toList ∨ script.fails model ∨ script.failsType type then
    .error (.failed s!"{type} rejected at {model}")
  else if Text.contains text "NOTIMPL".toList ∨ script.notImplemented model then
    .error (.notImplemented s!"{type} at {model}")
  else
    .ok { type, model, code := codeOf text (script.code type)
          entryPoint := s!"main{(utf8 text).length}", bindings := script.bindings type }

/-- Preprocesses a source. -/
def preprocess (script : CompilerScript) (text : Text) : Except CompileError Text :=
  if ¬ script.preprocesses then .error (.notImplemented "preprocessing")
  else if Text.contains text "#notimpl".toList then .error (.notImplemented "mock preprocessor")
  else if Text.contains text "#error".toList then .error (.failed "#error directive")
  else .ok text

end CompilerScript

end ShaderConformance
