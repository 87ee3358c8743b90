import ShaderConformance.Bytes
import ShaderConformance.Model.Basic
import ShaderConformance.Format
import ShaderConformance.Resource.Kind

/-!
# Faults of test files

A malformed test file is never the outcome of a test: it stops the run of that
file.  A fault is the cause; its wording is `Fault.message`.  Arithmetic without a result
stops a run, too, but at once: nothing is reported or destroyed after it.
-/

namespace ShaderConformance

/-- Two resources of a copy that do not agree in the named property. -/
inductive CopyMismatch where
  | dimensions
  | format
  | counts
deriving DecidableEq, Repr

/-- Why a line of a test file, or a block that just ended, is refused. -/
inductive Fault where
  /-- A word that the line needs is not there. -/
  | missing (what : String)
  /-- A word that is there does not have the needed form. -/
  | malformed (what : String) (text : Text)
  /-- A word that is not one of the known ones. -/
  | unknown (what : String) (text : Text)
  | qualifierNotOpened
  | qualifierModel (literal : Text) (cause : ModelError)
  /-- A bound below the oldest model. -/
  | qualifierNeverHolds (model : ShaderModel)
  | qualifierNear (text : Text)
  | missingCondition
  | headerNotOpened
  | headerNotClosed (text : Text)
  | noModelBelow (model : ShaderModel)
  | requiredModel (cause : ModelError) (word : Text)
  | formatAndStride
  | zeroStride
  | zeroLevels
  | zeroDimension
  | dimensionCount (kind : Text) (expected got : Nat)
  | elementFormat
  | switchExpected
  | clipPlaneIndex (index : UInt32)
  | viewportIndex (index : UInt32)
  | controlPoints (count : UInt32)
  | notProbeable (type : ResourceType)
  | emptyRectangle
  | rectangle (text : Text)
  | coordinateRange (text : Text)
  | valueCount (kind : String) (fewest most got : Nat)
  | uniformValues (count : Nat) (type : String)
  | uniformRange (offset : UInt32)
  | hexDigit (c : Char)
  | oddHexDigits
  | tooManyResources (limit : Nat)
  | tooManySamplers (limit : Nat)
  | outsideBlock
  | uavFormat (slot : UInt32)
  | tooManyLevels (resource : ResourceRef) (levels : UInt32) (most : Nat)
  | noResource (resource : ResourceRef)
  | copyMismatch (what : CopyMismatch)
  | probeLayer (layer : UInt32) (resource : ResourceRef)
  /-- A probe value with more components or bytes than a texel has. -/
  | probeValue (value : String) (format : Format)
  | probeRectangle (width height depth : UInt32)
  /-- A place or a size cannot be computed. -/
  | arithmetic (e : ArithmeticError)
deriving DecidableEq, Repr

namespace Fault

/-- The text after trailing characters that no grammar takes. -/
def trailing (text : Text) : Fault := .malformed "trailing characters" text

/-- A format name that no format has. -/
def unknownFormat (name : Text) : Fault := .unknown "format" name

/-- The wording of a fault. -/
def message : Fault → String
  | missing what => s!"Missing {what}."
  | malformed what text => s!"Malformed {what} '{String.ofList text}'."
  | unknown what text => s!"Unknown {what} '{String.ofList text}'."
  | qualifierNotOpened => "Expected '(' to open a qualifier expression."
  | qualifierModel literal cause =>
    s!"Invalid shader model '{String.ofList literal}' in qualifier: {cause.message}."
  | qualifierNeverHolds model => s!"Qualifier 'sm<{model}' can never hold."
  | qualifierNear text => s!"Malformed qualifier expression near '{String.ofList text}'."
  | missingCondition => "Missing condition after 'if'."
  | headerNotOpened => "Block headers must start with '['."
  | headerNotClosed text => s!"Unterminated block header '{String.ofList text}'."
  | noModelBelow model => s!"Shader model < {model} excludes every model."
  | requiredModel cause word => s!"{cause.message} '{String.ofList word}'."
  | formatAndStride => "Format and stride are mutually exclusive."
  | zeroStride => "Stride must not be zero."
  | zeroLevels => "Level count must not be zero."
  | zeroDimension => "Resource dimensions must not be zero."
  | dimensionCount kind expected got =>
    s!"Size kind '{String.ofList kind}' takes {expected} dimensions, got {got}."
  | elementFormat => "Input elements need a concrete format."
  | switchExpected => "Expected 'on' or 'off'."
  | clipPlaneIndex index => s!"Clip plane index {index} is out of range."
  | viewportIndex index => s!"Viewport index {index} is out of range."
  | controlPoints count => s!"Invalid control point count {count}."
  | notProbeable type => s!"Resources of type '{type}' cannot be probed."
  | emptyRectangle => "Empty probe rectangle."
  | rectangle text => s!"Malformed probe rectangle '({String.ofList text})'."
  | coordinateRange text => s!"Probe coordinate out of range in '({String.ofList text})'."
  | valueCount kind fewest most got => s!"{kind} takes {fewest} to {most} values, got {got}."
  | uniformValues count type => s!"Expected {count} values for {type}."
  | uniformRange offset => s!"Uniform offset {offset} is out of range."
  | hexDigit c => s!"Invalid hex digit '{c}' in shader source."
  | oddHexDigits => "Odd number of hex digits in shader source."
  | tooManyResources limit => s!"Too many resources; at most {limit} may be live."
  | tooManySamplers limit => s!"Too many samplers; at most {limit} may be defined."
  | outsideBlock => "Directive outside of any block."
  | uavFormat slot => s!"UAV {slot} needs an explicit format or stride."
  | tooManyLevels resource levels most =>
    s!"{resource} has {levels} levels, at most {most} fit its size."
  | noResource resource => s!"{resource} does not exist."
  | copyMismatch .dimensions => "Copy source and destination differ in dimensions."
  | copyMismatch .format => "Copy source and destination differ in format."
  | copyMismatch .counts =>
    "Copy source and destination differ in level, sample or layer count."
  | probeLayer layer resource => s!"Probe layer {layer} is out of range for {resource}."
  | probeValue value format => s!"Probe value {value} does not fit a {format} texel."
  | probeRectangle width height depth =>
    s!"Probe rectangle exceeds the {width}x{height}x{depth} resource."
  | arithmetic .overflow => "Arithmetic overflow."
  | arithmetic .divisionByZero => "Division by zero."

/-- Whether a run breaks off where it stands. -/
def breaksOff : Fault → Bool
  | arithmetic _ => true
  | _ => false

end Fault

end ShaderConformance
