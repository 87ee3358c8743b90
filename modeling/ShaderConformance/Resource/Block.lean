import ShaderConformance.Bytes
import ShaderConformance.Resource.Description
import ShaderConformance.Text.Keyword

/-!
# Resource blocks

The lines of a resource block set the format or the stride, the size, the number
of mip levels, and the initial contents.  A line that starts with none of the
keywords is payload: words of 32 bits, stored with the low byte first.

A refused payload line leaves the words before the refused one in the block;
every other refused line changes nothing.
-/

namespace ShaderConformance

open Text

/-- What a resource block has collected. -/
structure ResourceBlock where
  desc : ResourceDesc
  /-- The initial contents, tightly packed. -/
  data : List UInt8
  /-- Whether the block gave a format or a stride. -/
  explicitFormat : Bool
deriving DecidableEq, Repr

/-- A block without any line. -/
def ResourceBlock.fresh (type : ResourceType) (slot : UInt32) : ResourceBlock :=
  ⟨.fresh type slot, [], false⟩

/-! ## Sizes -/

/-- The kinds of sizes. -/
inductive SizeKind where
  | buffer
  | rawBuffer
  | counterBuffer
  | texture2d
  | texture2dMs
  | texture2dArray
  | texture3d
  | cube
deriving DecidableEq, Repr

namespace SizeKind

/-- Every kind under its name. -/
def table : List (String × SizeKind) :=
  [("buffer", buffer), ("raw_buffer", rawBuffer), ("counter_buffer", counterBuffer),
   ("2d", texture2d), ("2dms", texture2dMs), ("2darray", texture2dArray), ("3d", texture3d),
   ("cube", cube)]

/-- The number of dimensions that a kind takes. -/
def arity : SizeKind → Nat
  | buffer | rawBuffer | counterBuffer | cube => 1
  | texture2d => 2
  | texture2dMs | texture2dArray | texture3d => 3

end SizeKind

/-- A size as it is written. -/
inductive Size where
  | buffer (width : UInt32) (raw counter : Bool)
  | texture2d (width height : UInt32)
  | texture2dMs (samples width height : UInt32)
  | texture2dArray (width height layers : UInt32)
  | texture3d (width height depth : UInt32)
  | cube (edge : UInt32)
deriving DecidableEq, Repr

/-- The size of a kind with the given dimensions, if their number is right. -/
def Size.ofDimensions? : SizeKind → List UInt32 → Option Size
  | .buffer, [w] => some (.buffer w false false)
  | .rawBuffer, [w] => some (.buffer w true false)
  | .counterBuffer, [w] => some (.buffer w false true)
  | .texture2d, [w, h] => some (.texture2d w h)
  | .texture2dMs, [s, w, h] => some (.texture2dMs s w h)
  | .texture2dArray, [w, h, l] => some (.texture2dArray w h l)
  | .texture3d, [w, h, d] => some (.texture3d w h d)
  | .cube, [e] => some (.cube e)
  | _, _ => none

/-- What stands between the parentheses around a whole text. -/
def parenthesized? (s : Text) : Option Text :=
  match s with
  | '(' :: inner => if inner.getLast? = some ')' then some inner.dropLast else none
  | _ => none

/-- The size of a named kind. -/
def sizeOfKind (kind : Text) (dims : List UInt32) : Except Fault Size :=
  match SizeKind.table.find? (·.1.toList = kind) with
  | none => .error (.unknown "size kind" kind)
  | some (_, k) =>
    match Size.ofDimensions? k dims with
    | none => .error (.dimensionCount kind k.arity dims.length)
    | some size => if dims.contains 0 then .error .zeroDimension else .ok size

/-- Reads a size: a kind and its dimensions in parentheses. -/
def Size.read (s : Text) : Except Fault Size :=
  match parenthesized? (trim s) with
  | none => .error (.malformed "size" (trim s))
  | some inner =>
    let list := fields inner
    (wordFields "dimension" list.tail).bind (sizeOfKind (list.headD []))

/-! ## Lines -/

namespace ResourceBlock

/-- A line of a resource block. -/
inductive Line where
  | format (f : Format)
  | stride (bytes : UInt32)
  | size (s : Size)
  | levels (count : UInt32)
  /-- Payload words, and the fault of the word that ended them. -/
  | payload (words : List UInt32) (fault : Option Fault)

/-- Reads the name of a format at the end of a line. -/
def formatLine (b : ResourceBlock) (rest : Text) : Except Fault Line := do
  -- A block with a stride has an unknown format.
  if b.explicitFormat ∧ b.desc.format = .unknown then throw .formatAndStride
  match nextWord? rest with
  | none => throw (.missing "format name")
  | some (name, rest) =>
    endOfLine rest
    match Format.ofName? (String.ofList name) with
    | none => throw (.unknownFormat name)
    | some f => return .format f

/-- Reads a stride. -/
def strideLine (b : ResourceBlock) (rest : Text) : Except Fault Line := do
  if b.explicitFormat ∧ b.desc.format ≠ .unknown then throw .formatAndStride
  let (bytes, rest) ← uint32Operand rest "stride"
  endOfLine rest
  if bytes = 0 then throw .zeroStride
  return .stride bytes

/-- Reads a number of mip levels. -/
def levelsLine (rest : Text) : Except Fault Line := do
  let (count, rest) ← uint32Operand rest "level count"
  endOfLine rest
  if count = 0 then throw .zeroLevels
  return .levels count

/-- The word that a payload word stands for: the pattern of a number if it has a
    point, else an integer, negative ones in two's complement. -/
def payloadWord? (word : Text) : Option UInt32 :=
  if List.contains word '.' then (Single.read? word).map (·.bits)
  else
    match word with
    -- Only a decimal integer may be negative.
    | '-' :: digits => ((uint32? digits).filter (·.toNat ≤ Nat.pow 2 31)).map fun w => 0 - w
    | _ => uint32Literal? word

/-- Reads payload words up to the first refused one. -/
def payload : List Text → List UInt32 × Option Fault
  | [] => ([], none)
  | word :: more =>
    match payloadWord? word with
    | none => ([], some (.malformed "resource data" word))
    | some w =>
      let (ws, fault) := payload more
      (w :: ws, fault)

/-- Reads a line of a block. -/
def line (b : ResourceBlock) (s : Text) : Except Fault Line :=
  match keyword? s "format" with
  | some rest => b.formatLine rest
  | none =>
    match keyword? s "stride" with
    | some rest => b.strideLine rest
    | none =>
      match keyword? s "size" with
      | some rest => (Size.read rest).map .size
      | none =>
        match keyword? s "levels" with
        | some rest => levelsLine rest
        | none =>
          let (ws, fault) := payload (words s)
          .ok (.payload ws fault)

end ResourceBlock

/-- Gives a description a size.  What the size does not speak of is kept. -/
def ResourceDesc.withSize (d : ResourceDesc) : Size → ResourceDesc
  | .buffer width raw counter =>
    let d := { d with dimension := .buffer, width, isRaw := raw, isCounter := counter }
    -- A counter is one word, whatever format the block gave.
    if counter then { d with format := .r32Uint, texelSize := 4 } else d
  | .texture2d width height => { d with dimension := .texture2d, width, height }
  | .texture2dMs sampleCount width height =>
    { d with dimension := .texture2dMs, sampleCount, width, height }
  | .texture2dArray width height layerCount =>
    { d with dimension := .texture2dArray, width, height, layerCount }
  | .texture3d width height depth => { d with dimension := .texture3d, width, height, depth }
  | .cube edge => { d with dimension := .cube, width := edge, height := edge, layerCount := 6 }

namespace ResourceBlock

/-- What a line adds to a block. -/
def apply (b : ResourceBlock) : Line → ResourceBlock
  | .format f =>
    { b with
      desc := { b.desc with format := f, texelSize := f.texelSize }
      explicitFormat := true }
  | .stride bytes =>
    { b with
      desc := { b.desc with format := .unknown, texelSize := bytes }
      explicitFormat := true }
  | .size s =>
    { b with
      desc := b.desc.withSize s
      explicitFormat := match s with
        | .buffer _ _ true => true
        | _ => b.explicitFormat }
  | .levels count => { b with desc := { b.desc with levelCount := count } }
  | .payload ws _ => { b with data := b.data ++ ws.flatMap wordBytes }

/-- Takes a line into a block, with the fault of the line if it is refused. -/
def takeLine (b : ResourceBlock) (s : Text) : ResourceBlock × Option Fault :=
  match b.line s with
  | .error fault => (b, some fault)
  -- The words before a refused one stay.
  | .ok (.payload ws fault) => (b.apply (.payload ws fault), fault)
  | .ok l => (b.apply l, none)

/-- Takes lines into a block, all of which must be accepted. -/
def takeLines (b : ResourceBlock) : List Text → Except Fault ResourceBlock
  | [] => .ok b
  | s :: more =>
    match b.takeLine s with
    | (_, some fault) => .error fault
    | (b, none) => b.takeLines more

end ResourceBlock

end ShaderConformance
