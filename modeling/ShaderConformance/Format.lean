/-!
# Texel formats

A format gives the size of a texel, the number of its components and how their
bits are read.  `unknown` is the format of structured data, whose stride is given
apart.
-/

namespace ShaderConformance

/-- A name that nothing of its kind has. -/
structure UnknownName where
  kind : String
  name : String
deriving DecidableEq, Repr

def UnknownName.message (e : UnknownName) : String := s!"Unknown {e.kind} '{e.name}'"

/-- The value of a name, or that there is none. -/
def named {T : Type} (kind name : String) (found : Option T) : Except UnknownName T :=
  match found with
  | some value => .ok value
  | none => .error ⟨kind, name⟩

/-- How the bits of a component are read. -/
inductive ComponentType where
  | float
  | unorm
  | snorm
  | uint
  | sint
  /-- Bits without a reading. -/
  | typeless
deriving DecidableEq, Repr

/-- The formats of resources and vertex attributes. -/
inductive Format where
  | r32G32B32A32Float
  | r32G32B32A32Uint
  | r32G32B32A32Sint
  | r32G32Float
  | r32G32Uint
  | r32G32Sint
  | r32Float
  | r32Uint
  | r32Sint
  | r32Typeless
  | r16G16B16A16Float
  | r16G16B16A16Unorm
  | r16G16B16A16Uint
  | r16G16B16A16Sint
  | r16G16Float
  | r16G16Unorm
  | r16G16Uint
  | r16G16Sint
  | r16Float
  | r16Unorm
  | r16Uint
  | r16Sint
  | r8G8B8A8Unorm
  | r8G8B8A8Snorm
  | r8G8B8A8Uint
  | r8G8B8A8Sint
  | r8G8Unorm
  | r8Unorm
  | d32Float
  | d24UnormS8Uint
  | unknown
deriving DecidableEq, Repr, Inhabited

/-- The layout of a format. -/
structure FormatLayout where
  /-- The name in test files. -/
  name : String
  /-- Bytes of a texel; zero if the format does not say. -/
  texelSize : UInt32
  componentCount : UInt32
  componentType : ComponentType
deriving DecidableEq, Repr

namespace Format

/-- Every format, in the usual order. -/
def all : List Format := [
  .r32G32B32A32Float, .r32G32B32A32Uint, .r32G32B32A32Sint, .r32G32Float, .r32G32Uint,
  .r32G32Sint, .r32Float, .r32Uint, .r32Sint, .r32Typeless, .r16G16B16A16Float,
  .r16G16B16A16Unorm, .r16G16B16A16Uint, .r16G16B16A16Sint, .r16G16Float, .r16G16Unorm,
  .r16G16Uint, .r16G16Sint, .r16Float, .r16Unorm, .r16Uint, .r16Sint, .r8G8B8A8Unorm,
  .r8G8B8A8Snorm, .r8G8B8A8Uint, .r8G8B8A8Sint, .r8G8Unorm, .r8Unorm, .d32Float,
  .d24UnormS8Uint, .unknown]

/-- The layout of each format. -/
def layout : Format → FormatLayout
  | r32G32B32A32Float => ⟨"r32g32b32a32-float", 16, 4, .float⟩
  | r32G32B32A32Uint => ⟨"r32g32b32a32-uint", 16, 4, .uint⟩
  | r32G32B32A32Sint => ⟨"r32g32b32a32-sint", 16, 4, .sint⟩
  | r32G32Float => ⟨"r32g32-float", 8, 2, .float⟩
  | r32G32Uint => ⟨"r32g32-uint", 8, 2, .uint⟩
  | r32G32Sint => ⟨"r32g32-sint", 8, 2, .sint⟩
  | r32Float => ⟨"r32-float", 4, 1, .float⟩
  | r32Uint => ⟨"r32-uint", 4, 1, .uint⟩
  | r32Sint => ⟨"r32-sint", 4, 1, .sint⟩
  | r32Typeless => ⟨"r32-typeless", 4, 1, .typeless⟩
  | r16G16B16A16Float => ⟨"r16g16b16a16-float", 8, 4, .float⟩
  | r16G16B16A16Unorm => ⟨"r16g16b16a16-unorm", 8, 4, .unorm⟩
  | r16G16B16A16Uint => ⟨"r16g16b16a16-uint", 8, 4, .uint⟩
  | r16G16B16A16Sint => ⟨"r16g16b16a16-sint", 8, 4, .sint⟩
  | r16G16Float => ⟨"r16g16-float", 4, 2, .float⟩
  | r16G16Unorm => ⟨"r16g16-unorm", 4, 2, .unorm⟩
  | r16G16Uint => ⟨"r16g16-uint", 4, 2, .uint⟩
  | r16G16Sint => ⟨"r16g16-sint", 4, 2, .sint⟩
  | r16Float => ⟨"r16-float", 2, 1, .float⟩
  | r16Unorm => ⟨"r16-unorm", 2, 1, .unorm⟩
  | r16Uint => ⟨"r16-uint", 2, 1, .uint⟩
  | r16Sint => ⟨"r16-sint", 2, 1, .sint⟩
  | r8G8B8A8Unorm => ⟨"r8g8b8a8-unorm", 4, 4, .unorm⟩
  | r8G8B8A8Snorm => ⟨"r8g8b8a8-snorm", 4, 4, .snorm⟩
  | r8G8B8A8Uint => ⟨"r8g8b8a8-uint", 4, 4, .uint⟩
  | r8G8B8A8Sint => ⟨"r8g8b8a8-sint", 4, 4, .sint⟩
  | r8G8Unorm => ⟨"r8g8-unorm", 2, 2, .unorm⟩
  | r8Unorm => ⟨"r8-unorm", 1, 1, .unorm⟩
  | d32Float => ⟨"d32-float", 4, 1, .float⟩
  | d24UnormS8Uint => ⟨"d24-unorm-s8-uint", 4, 1, .unorm⟩
  | unknown => ⟨"unknown", 0, 1, .typeless⟩

def name (f : Format) : String := f.layout.name

instance : ToString Format := ⟨name⟩

def texelSize (f : Format) : UInt32 := f.layout.texelSize

def componentCount (f : Format) : UInt32 := f.layout.componentCount

def componentType (f : Format) : ComponentType := f.layout.componentType

/-- Bytes of a component, where all components have one size. -/
def componentSize (f : Format) : UInt32 := f.texelSize / f.componentCount

/-- Whether the format holds depth. -/
def isDepth (f : Format) : Bool := f = d32Float ∨ f = d24UnormS8Uint

/-- The format with a name. -/
def ofName? (name : String) : Option Format := all.find? (·.name = name)

/-- The format with a name, or that there is none. -/
def parse (name : String) : Except UnknownName Format := named "format" name (ofName? name)

/-- Every format is in the list. -/
theorem mem_all (f : Format) : f ∈ all := by cases f <;> decide

end Format

end ShaderConformance
