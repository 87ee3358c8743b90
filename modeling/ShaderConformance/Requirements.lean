import ShaderConformance.Capabilities.Basic
import ShaderConformance.Text.Keyword

/-!
# Requirements of tests

The lines of a require block bound the shader models, set compile options, and ask
for features.  The block is resolved against the capabilities of the runner: to a
range of models, and to what is missing.
-/

namespace ShaderConformance

open Text

/-- What a require block has collected. -/
structure RequireBlock where
  minimumModel : Option ShaderModel
  /-- This model and all newer ones are excluded. -/
  belowModel : Option ShaderModel
  options : CompileOptions
  features : List Feature
  /-- The formats that must be loadable through an unordered access view. -/
  uavLoads : List Format

/-- What a require block resolves to. -/
structure Requirements where
  minimumModel : ShaderModel
  /-- None if the block excludes every model. -/
  maximumModel : Option ShaderModel
  options : CompileOptions
  /-- The requirements that the runner does not meet. -/
  unmet : List String

/-- Why tests are skipped under some requirements, if they are. -/
def Requirements.skipReason? (r : Requirements) : Option String :=
  let inRange := match r.maximumModel with
    | some highest => decide (r.minimumModel ≤ highest)
    | none => false
  if !inRange then some "no supported shader model in the required range"
  else if r.unmet.isEmpty then none
  else some ("missing " ++ ", ".intercalate r.unmet)

namespace RequireBlock

/-- A block without any line. -/
def fresh : RequireBlock := ⟨none, none, .none, [], []⟩

/-- Reads a shader model at the end of a line. -/
def model (line : Text) : Except Fault ShaderModel :=
  match nextWord? line with
  | none => .error (.missing "shader model")
  | some (word, rest) =>
    (endOfLine rest).bind fun _ =>
      match ShaderModel.parse word with
      | .ok m => .ok m
      | .error cause => .error (.requiredModel cause word)

/-- Reads the bound that excludes newer models. -/
def belowLine (line : Text) : Except Fault ShaderModel := do
  let m ← model line
  if m = ShaderModel.oldest then throw (.noModelBelow m)
  return m

/-- Reads option names up to the first unknown one. -/
def optionWords : List Text → CompileOptions → CompileOptions × Option Fault
  | [], options => (options, none)
  | word :: more, options =>
    match CompileOption.ofName? (String.ofList word) with
    | some option => optionWords more (options.insert option)
    | none => (options, some (.unknown "compile option" word))

/-- Reads a format that must be loadable. -/
def formatLine (line : Text) : Except Fault Format :=
  match nextWord? line with
  | none => .error (.missing "format name")
  | some (name, rest) =>
    match Format.ofName? (String.ofList name) with
    | none => .error (.unknownFormat name)
    | some f =>
      match keyword? rest "uav-load" with
      | none => .error (.unknown "format capability" (trim rest))
      | some rest => (endOfLine rest).map fun _ => f

/-- Reads the keyword of a feature. -/
def featureLine (line : Text) : Except Fault Feature :=
  match tableKeyword? line Feature.table with
  | none => .error (.unknown "require directive" (trim line))
  | some (f, rest) => (endOfLine rest).map fun _ => f

/-- Takes what a reader gives into a block; a fault leaves the block as it is. -/
def take {T : Type} (b : RequireBlock) (result : Except Fault T) (apply : T → RequireBlock) :
    RequireBlock × Option Fault :=
  match result with
  | .error fault => (b, some fault)
  | .ok value => (apply value, none)

/-- Takes a line into a block, with the fault of the line if it is refused.  Compile
    options before a refused one are kept. -/
def takeLine (b : RequireBlock) (line : Text) : RequireBlock × Option Fault :=
  match keyword? line "shader model >=" with
  | some rest => b.take (model rest) fun m => { b with minimumModel := some m }
  | none =>
    match keyword? line "shader model <" with
    | some rest => b.take (belowLine rest) fun m => { b with belowModel := some m }
    | none =>
      match keyword? line "options:" with
      | some rest =>
        let (options, fault) := optionWords (words rest) .none
        ({ b with options }, fault)
      | none =>
        match keyword? line "format" with
        | some rest => b.take (formatLine rest) fun f => { b with uavLoads := b.uavLoads ++ [f] }
        | none => b.take (featureLine line) fun f => { b with features := b.features ++ [f] }

/-- Resolves a block against the capabilities of a runner. -/
def evaluate (b : RequireBlock) (caps : Capabilities) : Requirements where
  minimumModel := match b.minimumModel with
    | some m => max m caps.minimumModel
    | none => caps.minimumModel
  maximumModel := match b.belowModel with
    | some below => below.older?.map fun m => min m caps.maximumModel
    | none => some caps.maximumModel
  options := b.options
  unmet :=
    (b.features.filter (!caps.has ·)).map Feature.name ++
      (b.uavLoads.filter (!caps.uavLoad ·)).map fun f => s!"{f} uav-load"

end RequireBlock

end ShaderConformance
