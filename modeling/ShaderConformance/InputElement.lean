import ShaderConformance.Text.Keyword

/-!
# Vertex attributes

A line of an input layout names the vertex buffer slot, the format and the
semantic of an attribute, and may give an index of the semantic.
-/

namespace ShaderConformance

open Text

/-- One vertex attribute. -/
structure InputElement where
  semanticName : String
  semanticIndex : UInt32
  /-- The slot of the vertex buffer. -/
  slot : UInt32
  format : Format
  texelSize : UInt32
deriving DecidableEq, Repr, Inhabited

namespace InputElement

/-- Reads the format of an attribute. -/
def format? (line : Text) : Except Fault (Format × Text) :=
  match nextWord? line with
  | none => .error (.missing "element format")
  | some (name, rest) =>
    match Format.ofName? (String.ofList name) with
    | none => .error (.unknownFormat name)
    | some f => if f = .unknown then .error .elementFormat else .ok (f, rest)

/-- Reads the index of a semantic; without one it is zero. -/
def index (line : Text) : Except Fault (UInt32 × Text) :=
  if isBlankLine line then .ok (0, line) else uint32Operand line "semantic index"

/-- Reads an attribute. -/
def read (line : Text) : Except Fault InputElement := do
  let (slot, rest) ← uint32Operand line "vertex buffer slot"
  let (format, rest) ← format? rest
  match nextWord? rest with
  | none => throw (.missing "semantic name")
  | some (name, rest) =>
    let (semanticIndex, rest) ← index rest
    endOfLine rest
    return { semanticName := String.ofList name, semanticIndex, slot, format
             texelSize := format.texelSize }

end InputElement

end ShaderConformance
