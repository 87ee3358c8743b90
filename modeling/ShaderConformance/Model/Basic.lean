import ShaderConformance.Text.Integer

/-!
# Shader models

A shader model is a tier of shader features.  The models form a list from the
oldest to the newest, and the place of a model in it (`index`) orders them.
-/

namespace ShaderConformance

/-- The known shader models, from the oldest to the newest. -/
inductive ShaderModel where
  | sm2_0
  | sm3_0
  | sm4_0
  | sm4_1
  | sm5_0
  | sm5_1
  | sm6_0
  | sm6_2
deriving DecidableEq, Repr, Inhabited

/-- Why a text names no shader model. -/
inductive ModelError where
  /-- The text is not a number or two numbers joined by a point. -/
  | invalidFormat
  /-- The version is well formed but belongs to no known model. -/
  | unknownModel (major minor : UInt32)
deriving DecidableEq, Repr

def ModelError.message : ModelError → String
  | invalidFormat => "Invalid shader model format"
  | unknownModel major minor => s!"Unknown shader model {major}.{minor}"

namespace ShaderModel

/-- Every model, from the oldest to the newest. -/
def all : List ShaderModel := [sm2_0, sm3_0, sm4_0, sm4_1, sm5_0, sm5_1, sm6_0, sm6_2]

/-- The number of models. -/
def count : Nat := 8

/-- The oldest model. -/
def oldest : ShaderModel := sm2_0

/-- The newest model. -/
def newest : ShaderModel := sm6_2

/-- The place of a model in the list of models. -/
def index : ShaderModel → Nat
  | sm2_0 => 0
  | sm3_0 => 1
  | sm4_0 => 2
  | sm4_1 => 3
  | sm5_0 => 4
  | sm5_1 => 5
  | sm6_0 => 6
  | sm6_2 => 7

/-- The model at a place in the list of models. -/
def ofIndex? (i : Nat) : Option ShaderModel := all[i]?

instance : LE ShaderModel := ⟨fun a b => a.index ≤ b.index⟩
instance : LT ShaderModel := ⟨fun a b => a.index < b.index⟩
instance (a b : ShaderModel) : Decidable (a ≤ b) := inferInstanceAs (Decidable (a.index ≤ b.index))
instance (a b : ShaderModel) : Decidable (a < b) := inferInstanceAs (Decidable (a.index < b.index))
instance : Max ShaderModel := ⟨fun a b => if a ≤ b then b else a⟩
instance : Min ShaderModel := ⟨fun a b => if a ≤ b then a else b⟩

/-- The next older model. -/
def older? (m : ShaderModel) : Option ShaderModel :=
  if m.index = 0 then none else ofIndex? (m.index - 1)

/-- The next newer model. -/
def newer? (m : ShaderModel) : Option ShaderModel := ofIndex? (m.index + 1)

/-- The major and the minor version number. -/
def version : ShaderModel → UInt32 × UInt32
  | sm2_0 => (2, 0)
  | sm3_0 => (3, 0)
  | sm4_0 => (4, 0)
  | sm4_1 => (4, 1)
  | sm5_0 => (5, 0)
  | sm5_1 => (5, 1)
  | sm6_0 => (6, 0)
  | sm6_2 => (6, 2)

/-- A span of models that behave alike. -/
inductive Era where
  /-- Before model 4.0. -/
  | legacy
  /-- Models 4.0 to 5.1. -/
  | middle
  /-- From model 6.0 on. -/
  | modern
deriving DecidableEq, Repr

/-- The era of a model. -/
def era (m : ShaderModel) : Era :=
  if m < sm4_0 then .legacy else if m < sm6_0 then .middle else .modern

/-- A version as it is written: `5.1`. -/
def name (m : ShaderModel) : String := s!"{m.version.1}.{m.version.2}"

instance : ToString ShaderModel := ⟨name⟩

/-- Reads a version: a number, or two numbers joined by a point. -/
def parse (s : Text) : Except ModelError ShaderModel :=
  let (major, minor) := (Text.splitFirst? '.' s).getD (s, ['0'])
  match Text.uint32? major, Text.uint32? minor with
  | some major, some minor =>
    match all.find? (·.version = (major, minor)) with
    | some model => .ok model
    | none => .error (.unknownModel major minor)
  | _, _ => .error .invalidFormat

/-- Every model is in the list. -/
theorem mem_all (m : ShaderModel) : m ∈ all := by cases m <;> decide

/-- A model is found at its index. -/
theorem ofIndex?_index (m : ShaderModel) : ofIndex? m.index = some m := by cases m <;> rfl

/-- No two models have the same index. -/
theorem index_injective {a b : ShaderModel} (h : a.index = b.index) : a = b := by
  have := ofIndex?_index a
  rw [h, ofIndex?_index] at this
  exact (Option.some.inj this).symm

/-- Models are ordered by their indices. -/
theorem le_def {a b : ShaderModel} : a ≤ b ↔ a.index ≤ b.index := Iff.rfl

theorem lt_def {a b : ShaderModel} : a < b ↔ a.index < b.index := Iff.rfl

end ShaderModel

end ShaderConformance
