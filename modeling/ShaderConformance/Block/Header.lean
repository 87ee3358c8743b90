import ShaderConformance.Shader.Header

/-!
# Block headers

A line that starts with an opening bracket opens a block.
-/

namespace ShaderConformance

open Text

/-- What a block header opens. -/
inductive BlockHeader where
  | require
  | test
  /-- Source for the preprocessor, which is expected to refuse it or not. -/
  | preproc (refused : Bool)
  | inputLayout
  | shader (header : ShaderHeader)
  | resource (ref : ResourceRef)
  | sampler (slot : UInt32)

namespace BlockHeader

/-- What stands between the brackets of a header line. -/
def inside (line : Text) : Except Fault Text :=
  match trim line with
  | '[' :: inner =>
    match splitLast? ']' inner with
    | none => .error (.headerNotClosed (trim line))
    | some (inner, trailing) => (endOfLine trailing).map fun _ => inner
  | _ => .error .headerNotOpened

/-- The header, if nothing follows it. -/
def ending (header : BlockHeader) (rest : Text) : Except Fault BlockHeader :=
  (endOfLine rest).map fun _ => header

/-- Reads what follows the keyword `preproc`. -/
def preprocHeader (rest : Text) : Except Fault BlockHeader :=
  match keyword? rest "fail" with
  | some rest => ending (.preproc true) rest
  | none => ending (.preproc false) rest

/-- Reads the slot of a sampler. -/
def samplerHeader (rest : Text) : Except Fault BlockHeader := do
  let (slot, rest) ← uint32Operand rest "sampler slot"
  ending (.sampler slot) rest

/-- Reads the slot of a resource; depth-stencil views have none. -/
def resourceHeader (type : ResourceType) (rest : Text) : Except Fault BlockHeader :=
  if type = .depthStencil then ending (.resource ⟨type, 0⟩) rest
  else do
    let (slot, rest) ← uint32Operand rest "resource slot"
    ending (.resource ⟨type, slot⟩) rest

/-- The first shader stage whose keyword matches. -/
def stage? (inner : Text) : Option (ShaderType × Text) :=
  ShaderType.all.findSome? fun type => (keyword? inner type.name).map (type, ·)

/-- The headers that are a keyword and what a reader makes of the rest. -/
def plainReaders : List (String × (Text → Except Fault BlockHeader)) :=
  [("require", ending .require), ("test", ending .test), ("preproc", preprocHeader),
   ("input layout", ending .inputLayout), ("sampler", samplerHeader)]

/-- Reads a header line. -/
def read (context : QualifierContext) (line : Text) : Except Fault BlockHeader := do
  let inner ← inside line
  match plainReaders.findSome? fun (keyword, reader) => (keyword? inner keyword).map reader with
  | some result => result
  | none =>
    match stage? inner with
    | some (type, rest) => (ShaderHeader.read context type rest).map .shader
    | none =>
      match tableKeyword? inner ResourceType.table with
      | some (type, rest) => resourceHeader type rest
      | none => throw (.unknown "block header" (trim line))

end BlockHeader

end ShaderConformance
