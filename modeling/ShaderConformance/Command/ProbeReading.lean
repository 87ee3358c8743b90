import ShaderConformance.Command.Basic
import ShaderConformance.Text.Keyword
import ShaderConformance.Text.Letter

/-!
# Reading probes

    probe [resource] (coordinates) type (values) [tolerance]

Coordinates are one index, a point, a point of a layer, or a rectangle.
-/

namespace ShaderConformance

open Text

/-- Reads a reference to a resource; depth-stencil views have no slot. -/
def resourceRef (line : Text) : Except Fault (ResourceRef × Text) :=
  match tableKeyword? line ResourceType.table with
  | none => .error (.malformed "resource reference" (trim line))
  | some (type, rest) =>
    if type = .depthStencil then .ok (⟨type, 0⟩, rest)
    else (uint32Operand rest "resource slot").map fun (slot, rest) => (⟨type, slot⟩, rest)

namespace Probe

/-- The parts of a probe after its target. -/
structure Form where
  coordinates : Text
  type : Text
  values : Text
  tolerance : Option Text
deriving DecidableEq, Repr

/-- What stands between two parentheses at the front of a text, and what follows. -/
def group? (s : Text) : Option (Text × Text) :=
  match trimStart s with
  | '(' :: inner => splitFirst? ')' inner
  | _ => none

/-- The tolerance at the end of a probe, if there is one: a single word. -/
def tolerance? (s : Text) : Option (Option Text) :=
  match nextWord? s with
  | none => some none
  | some (word, []) => some (some word)
  | some _ => none

/-- Splits a probe into its parts. -/
def form? (s : Text) : Option Form := do
  let (coordinates, s) ← group? s
  let s := trimStart s
  let type := s.takeWhile isWordChar
  if type.isEmpty then none
  let (values, s) ← group? (s.dropWhile isWordChar)
  let tolerance ← tolerance? s
  return { coordinates, type, values, tolerance }

/-- The rectangle that some coordinates name. -/
def rectangle (text : Text) (coordinates : List UInt32) : Except Fault ProbeRect :=
  let point x y layer :=
    match ProbeRect.point? x y layer with
    | some rect => .ok rect
    | none => .error (.coordinateRange text)
  match coordinates with
  | [left, top, right, bottom] =>
    if right ≤ left ∨ bottom ≤ top then .error .emptyRectangle
    else .ok { left, top, right, bottom, layer := 0 }
  | [x, y, layer] => point x y layer
  | [x, y] => point x y 0
  | [index] => point index 0 0
  | _ => .error (.rectangle text)

/-- Reads some fields as values of a named type. -/
def valueFields {T : Type} (kind : String) (read? : Text → Option T) :
    List Text → Except Fault (List T)
  | [] => .ok []
  | field :: more =>
    match read? field with
    | some value => (valueFields kind read? more).map (value :: ·)
    | none => .error (.malformed s!"{kind} value" field)

/-- Reads between `fewest` and `most` values of a named type. -/
def values {T : Type} (kind : String) (read? : Text → Option T) (fewest most : Nat)
    (text : Text) : Except Fault (List T) :=
  match valueFields kind read? (fields text) with
  | .error fault => .error fault
  | .ok list =>
    if fewest ≤ list.length ∧ list.length ≤ most then .ok list
    else .error (.valueCount kind fewest most list.length)

/-- Reads the values of a type into an expected value. -/
abbrev ValueReader := Text → Except Fault ProbeValue

/-- The types of expected values, under their names. -/
def valueReaders : List (String × ValueReader) :=
  [("u64", fun s => (values "u64" uint64? 1 2 s).map .u64),
   ("i64", fun s => (values "i64" int64? 1 2 s).map .i64),
   ("f64", fun s => (values "f64" Double.read? 1 2 s).map .f64),
   ("u32", fun s => (values "u32" uint32Literal? 1 4 s).map .u32),
   ("i32", fun s => (values "i32" int32Literal? 1 4 s).map .i32),
   ("f32", fun s => (values "f32" Single.read? 1 4 s).map .f32),
   ("rgba", fun s => (values "rgba" Single.read? 4 4 s).map .f32)]

/-- Reads an expected value of a named type. -/
def value (type text : Text) : Except Fault ProbeValue :=
  match valueReaders.find? (·.1.toList = type) with
  | some (_, reader) => reader text
  | none => .error (.unknown "probe value type" type)

/-- Reads a tolerance; without one it is zero. -/
def tolerance : Option Text → Except Fault UInt32
  | none => .ok 0
  | some word =>
    match uint32Literal? word with
    | some steps => .ok steps
    | none => .error (.malformed "ULP tolerance" word)

/-- Reads the target of a probe; without one it is the first render target. -/
def target (line : Text) : Except Fault (ResourceRef × Text) :=
  match tableKeyword? line ResourceType.table with
  | none => .ok (⟨.renderTarget, 0⟩, line)
  | some (type, _) =>
    if type = .texture ∨ type = .vertexBuffer then .error (.notProbeable type)
    else resourceRef line

/-- Reads a probe. -/
def read (line : Text) : Except Fault Command := do
  let (target, rest) ← target line
  match form? rest with
  | none => throw (.malformed "probe" (trim rest))
  | some form =>
    let coordinates ← wordFields "probe coordinate" (fields form.coordinates)
    let rect ← rectangle form.coordinates coordinates
    let value ← value form.type form.values
    let steps ← tolerance form.tolerance
    return .probe target rect value steps

end Probe

end ShaderConformance
