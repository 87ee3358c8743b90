import ShaderConformance.Bytes
import ShaderConformance.Command.ProbeReading
import ShaderConformance.Qualifier.Reading

/-!
# Reading test lines

A line of a test block is a command after a chain of qualifiers:

* `todo` and `bug`, each with or without an expression, expect failure;
* `if` with an expression drops the line unless the expression holds.
-/

namespace ShaderConformance

open Text

/-! ## Uniforms -/

/-- A type of uniform values: its name, the number of its components and how the
    bytes of a component are read. -/
structure UniformType where
  name : String
  count : Nat
  read? : Text → Option (List UInt8)

namespace UniformType

def ofSingle (s : Text) : Option (List UInt8) := (Single.read? s).map fun x => wordBytes x.bits

def ofInt32 (s : Text) : Option (List UInt8) := (int32Literal? s).map fun n => wordBytes n.toUInt32

def ofUInt32 (s : Text) : Option (List UInt8) := (uint32Literal? s).map wordBytes

def ofDouble (s : Text) : Option (List UInt8) := (Double.read? s).map fun x => longBytes x.bits

def ofInt64 (s : Text) : Option (List UInt8) := (int64? s).map fun n => longBytes n.toUInt64

def ofUInt64 (s : Text) : Option (List UInt8) := (uint64? s).map longBytes

/-- Every type of uniform values. -/
def all : List UniformType :=
  [⟨"float", 1, ofSingle⟩, ⟨"float2", 2, ofSingle⟩, ⟨"float3", 3, ofSingle⟩,
   ⟨"float4", 4, ofSingle⟩, ⟨"int", 1, ofInt32⟩, ⟨"int2", 2, ofInt32⟩, ⟨"int3", 3, ofInt32⟩,
   ⟨"int4", 4, ofInt32⟩, ⟨"uint", 1, ofUInt32⟩, ⟨"uint2", 2, ofUInt32⟩, ⟨"uint3", 3, ofUInt32⟩,
   ⟨"uint4", 4, ofUInt32⟩, ⟨"double", 1, ofDouble⟩, ⟨"double2", 2, ofDouble⟩,
   ⟨"int64_t", 1, ofInt64⟩, ⟨"int64_t2", 2, ofInt64⟩, ⟨"uint64_t", 1, ofUInt64⟩,
   ⟨"uint64_t2", 2, ofUInt64⟩]

/-- Reads the components that are left. -/
def components (t : UniformType) (line : Text) : Nat → Except Fault (List UInt8 × Text)
  | 0 => .ok ([], line)
  | count + 1 =>
    match nextWord? line with
    | none => .error (.uniformValues t.count t.name)
    | some (word, rest) =>
      match t.read? word with
      | none => .error (.malformed s!"{t.name} value" word)
      | some bytes => (t.components rest count).map fun (more, rest) => (bytes ++ more, rest)

end UniformType

/-- Reads the name of a type of uniform values. -/
def uniformType (line : Text) : Except Fault (UniformType × Text) :=
  match nextWord? line with
  | none => .error (.missing "uniform type")
  | some (name, rest) =>
    match UniformType.all.find? (·.name.toList = name) with
    | none => .error (.unknown "uniform type" name)
    | some t => .ok (t, rest)

namespace Command

/-- Reads the offset, type and components of a uniform. -/
def uniformLine (line : Text) : Except Fault Command := do
  let (offset, rest) ← uint32Operand line "uniform offset"
  let (type, rest) ← uniformType rest
  let (data, rest) ← type.components rest type.count
  endOfLine rest
  -- The offset counts words of 32 bits.
  if maxUniformSize < offset.toNat * 4 + data.length then throw (.uniformRange offset)
  return .uniform offset data

/-! ## Other commands -/

/-- A command, if nothing follows it. -/
def ending (command : Command) (rest : Text) : Except Fault Command :=
  (endOfLine rest).map fun _ => command

/-- Reads an entry of a table. -/
def entry {T : Type} (what : String) (table : List (String × T)) (line : Text) :
    Except Fault (T × Text) :=
  match tableKeyword? line table with
  | some found => .ok found
  | none => .error (.unknown what (trim line))

def dispatchLine (line : Text) : Except Fault Command := do
  let (x, rest) ← uint32Operand line "thread group count"
  let (y, rest) ← uint32Operand rest "thread group count"
  let (z, rest) ← uint32Operand rest "thread group count"
  ending (.dispatch x y z) rest

def clearTargetLine (line : Text) : Except Fault Command := do
  let (slot, rest) ← uint32Operand line "render target slot"
  let (colour, rest) ← singleOperands rest "clear colour" 4
  ending (.clearTarget slot colour) rest

def clearDepthLine (line : Text) : Except Fault Command := do
  let (depth, rest) ← singleOperand line "clear depth"
  ending (.clearDepth depth) rest

def depthBoundsLine (line : Text) : Except Fault Command := do
  let (bounds, rest) ← singleOperands line "depth bound" 2
  ending (.depthBounds bounds[0] bounds[1]) rest

def depthFuncLine (line : Text) : Except Fault Command :=
  match keyword? line "disable" with
  | some rest => ending (.depthFunc none) rest
  | none => do
    let (func, rest) ← entry "depth function" ComparisonFunc.table line
    ending (.depthFunc (some func)) rest

/-- The topologies that have a name. -/
def topologies : List (String × Topology) :=
  [("point list", .pointList), ("line list", .lineList), ("line strip", .lineStrip),
   ("triangle list", .triangleList), ("triangle strip", .triangleStrip)]

/-- Reads a topology: a name, or a number of control points. -/
def topology (line : Text) : Except Fault (Topology × Text) :=
  match tableKeyword? line topologies with
  | some found => .ok found
  | none => do
    let (points, rest) ← uint32Operand line "topology"
    match keyword? rest "control point patch list" with
    | none => throw (.unknown "primitive topology" (trim line))
    | some rest =>
      if points < 1 ∨ 32 < points then throw (.controlPoints points)
      return (.patchList points, rest)

/-- Reads a number of instances; without one it is one. -/
def instanceCount (line : Text) : Except Fault (UInt32 × Text) :=
  if isBlankLine line then .ok (1, line) else uint32Operand line "instance count"

def drawLine (line : Text) : Except Fault Command := do
  -- Only the number of instances may be left out.
  let (topology, rest) ← topology line
  let (vertices, rest) ← uint32Operand rest "vertex count"
  let (instances, rest) ← instanceCount rest
  ending (.draw topology vertices instances) rest

def copyLine (line : Text) : Except Fault Command := do
  let (source, rest) ← resourceRef line
  let (target, rest) ← resourceRef rest
  ending (.copy source target) rest

def sampleMaskLine (line : Text) : Except Fault Command := do
  let (mask, rest) ← uint32Operand line "sample mask"
  ending (.sampleMask mask) rest

def alphaTestLine (line : Text) : Except Fault Command :=
  match keyword? line "disable" with
  | some rest => ending (.alphaTest none) rest
  | none => do
    let (func, rest) ← entry "alpha test function" ComparisonFunc.table line
    let (reference, rest) ← singleOperand rest "alpha reference"
    ending (.alphaTest (some (func, reference))) rest

def shadeModeLine (line : Text) : Except Fault Command := do
  let (mode, rest) ← entry "shade mode" [("flat", ShadeMode.flat), ("gouraud", .gouraud)] line
  ending (.shadeMode mode) rest

def clipPlaneLine (line : Text) : Except Fault Command := do
  let (index, rest) ← uint32Operand line "clip plane index"
  if h : index.toNat < maxClipPlanes then
    match keyword? rest "disable" with
    | some rest => ending (.clipPlane ⟨index.toNat, h⟩ none) rest
    | none =>
      let (plane, rest) ← singleOperands rest "clip plane" 4
      ending (.clipPlane ⟨index.toNat, h⟩ (some plane)) rest
  else throw (.clipPlaneIndex index)

def pointSizeLine (line : Text) : Except Fault Command := do
  let (sizes, rest) ← singleOperands line "point size" 3
  ending (.pointSize ⟨sizes[0], sizes[1], sizes[2]⟩) rest

def pointSpriteLine (line : Text) : Except Fault Command :=
  match tableKeyword? line [("on", true), ("off", false)] with
  | some (enabled, rest) => ending (.pointSprite enabled) rest
  | none => .error .switchExpected

def fogColourLine (line : Text) : Except Fault Command := do
  let (colour, rest) ← singleOperands line "fog colour" 4
  ending (.fogColour colour) rest

/-- The fog modes, and no fog, under their names. -/
def fogModes : List (String × Option FogMode) :=
  [("disable", none), ("none", some .none), ("linear", some .linear), ("exp", some .exp),
   ("exp2", some .exp2)]

def fogLine (line : Text) : Except Fault Command := do
  let (mode, rest) ← entry "fog mode" fogModes line
  ending (.fog mode) rest

/-- Reads the depth range of a viewport; without one it is the unit interval. -/
def depthRange (line : Text) : Except Fault (Vector Single 2 × Text) :=
  if isBlankLine line then .ok (#v[.zero, .one], line) else singleOperands line "viewport depth" 2

def viewportLine (line : Text) : Except Fault Command := do
  let (index, rest) ← uint32Operand line "viewport index"
  if h : index.toNat < maxViewports then
    let (area, rest) ← singleOperands rest "viewport" 4
    let (depths, rest) ← depthRange rest
    let viewport : Viewport := ⟨area[0], area[1], area[2], area[3], depths[0], depths[1]⟩
    ending (.viewport ⟨index.toNat, h⟩ viewport) rest
  else throw (.viewportIndex index)

/-- The commands under their keywords, each with what reads its operands.  The first
    keyword that matches counts. -/
def readers : List (String × (Text → Except Fault Command)) :=
  [("dispatch", dispatchLine), ("clear rtv", clearTargetLine), ("clear dsv", clearDepthLine),
   -- A quad is no topology, so its keyword stands before that of the other draws.
   ("depth-bounds", depthBoundsLine), ("depth", depthFuncLine), ("draw quad", ending .drawQuad),
   ("draw", drawLine), ("copy", copyLine), ("probe", Probe.read), ("uniform", uniformLine),
   ("sample mask", sampleMaskLine), ("alpha test", alphaTestLine), ("shade mode", shadeModeLine),
   ("clip-plane", clipPlaneLine), ("point-size", pointSizeLine),
   ("point-sprite", pointSpriteLine), ("fog-colour", fogColourLine), ("fog", fogLine),
   ("viewport", viewportLine)]

/-- Reads a command. -/
def read (line : Text) : Except Fault Command :=
  match readers.findSome? fun (keyword, reader) => (keyword? line keyword).map reader with
  | some result => result
  | none => .error (.unknown "test directive" (trim line))

end Command

/-! ## Qualifiers of a line -/

namespace TestLine

/-- What a qualifier in front of a command does. -/
inductive Effect where
  | todo
  | bug
  | condition
deriving DecidableEq, Repr

/-- Reads the condition after `if`. -/
def condition? (context : QualifierContext) (line : Text) :
    Except Fault (Option (Effect × Qualifier × Text)) :=
  match after? "if".toList (trimStart line) with
  | none => .ok none
  | some rest =>
    if rest.head? = some '(' then
      (Qualifier.read context rest).map fun (q, rest) => some (.condition, q, trimStart rest)
    -- A word that only begins like the keyword is left to the commands.
    else if (keyword? line "if").isSome then .error .missingCondition
    else .ok none

/-- Reads one qualifier in front of a command. -/
def effect? (context : QualifierContext) (line : Text) :
    Except Fault (Option (Effect × Qualifier × Text)) :=
  match firstQualified context line [("todo", Effect.todo), ("bug", Effect.bug)] with
  | .error fault => .error fault
  | .ok (some found) => .ok (some found)
  | .ok none => condition? context line

/-- What stands behind a condition is shorter than the line. -/
theorem length_condition? {context : QualifierContext} {line rest : Text} {e : Effect}
    {q : Qualifier} (h : condition? context line = .ok (some (e, q, rest))) :
    rest.length < line.length := by
  unfold condition? at h
  split at h
  · simp at h
  · rename_i r hr
    have h1 := length_after? hr
    have h2 := length_trimStart_le line
    -- Without an expression there is no condition, whatever else the line says.
    split at h
    · cases hq : Qualifier.read context r with
      | error e => simp [hq, Except.map] at h
      | ok p =>
        simp only [hq, Except.map, Except.ok.injEq, Option.some.injEq, Prod.mk.injEq] at h
        obtain ⟨-, -, rfl⟩ := h
        have h3 := length_read hq
        have h4 := length_trimStart_le p.2
        omega
    · split at h <;> simp at h

/-- What stands behind an effect is shorter than the line. -/
theorem length_effect? {context : QualifierContext} {line rest : Text} {e : Effect}
    {q : Qualifier} (h : effect? context line = .ok (some (e, q, rest))) :
    rest.length < line.length := by
  unfold effect? at h
  split at h
  · simp at h
  · rename_i hf
    simp only [Except.ok.injEq, Option.some.injEq] at h
    subst h
    exact length_firstQualified hf (by decide)
  · exact length_condition? h

/-- Reads the rest of a line, given what the qualifiers so far have said. -/
def readWith (context : QualifierContext) (todo bug : Bool) (line : Text) :
    Except Fault (Option TestLine) :=
  match _h : effect? context line with
  | .error fault => .error fault
  | .ok none => (Command.read line).map fun command => some { todo, bug, command }
  | .ok (some (.todo, q, rest)) => readWith context (todo || q.holds) bug rest
  | .ok (some (.bug, q, rest)) => readWith context todo (bug || q.holds) rest
  | .ok (some (.condition, q, rest)) =>
    if q.holds then readWith context todo bug rest else .ok none
termination_by line.length
decreasing_by all_goals exact length_effect? _h

/-- Reads a line of a test block; nothing if a condition on it does not hold. -/
def read (context : QualifierContext) (line : Text) : Except Fault (Option TestLine) :=
  readWith context false false line

end TestLine

end ShaderConformance
