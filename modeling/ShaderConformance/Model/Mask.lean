import ShaderConformance.Model.Basic

/-!
# Sets of shader models

A set of models has one bit for each model, at the place of the model in the
list of models.  `contains` is the view through which a mask is reasoned about:
two masks with the same members are equal (`ext_contains`), and every operation
has a lemma that gives its members.
-/

namespace ShaderConformance

/-- A set of shader models. -/
structure ModelMask where
  bits : BitVec ShaderModel.count
deriving DecidableEq, Repr

namespace ModelMask

/-- The set of no model. -/
def empty : ModelMask := ⟨0⟩

/-- The set of every model. -/
def all : ModelMask := ⟨BitVec.allOnes _⟩

/-- The set with the given bits; bits that stand for no model are dropped. -/
def ofBits (n : Nat) : ModelMask := ⟨BitVec.ofNat _ n⟩

/-- The bits of the set as a number. -/
def toNat (s : ModelMask) : Nat := s.bits.toNat

/-- Whether a model is in the set. -/
def contains (s : ModelMask) (m : ShaderModel) : Bool := s.bits.getLsbD m.index

/-- The set of one model. -/
def only (m : ShaderModel) : ModelMask := ⟨1 <<< m.index⟩

/-- The set of the models from `m` on. -/
def atLeast (m : ShaderModel) : ModelMask := ⟨BitVec.allOnes _ <<< m.index⟩

/-- The set of the models before `m`. -/
def below (m : ShaderModel) : ModelMask := ⟨~~~(BitVec.allOnes _ <<< m.index)⟩

instance : AndOp ModelMask := ⟨fun s t => ⟨s.bits &&& t.bits⟩⟩
instance : OrOp ModelMask := ⟨fun s t => ⟨s.bits ||| t.bits⟩⟩

/-- Whether the set has no model. -/
def isEmpty (s : ModelMask) : Bool := s.bits == 0

/-- The models of the set, from the oldest to the newest. -/
def toList (s : ModelMask) : List ShaderModel := ShaderModel.all.filter s.contains

/-- Masks with the same models are equal. -/
theorem ext_contains {s t : ModelMask} (h : ∀ m, s.contains m = t.contains m) : s = t := by
  obtain ⟨a⟩ := s
  obtain ⟨b⟩ := t
  congr 1
  apply BitVec.eq_of_getLsbD_eq
  intro i hi
  have hm : ∃ m : ShaderModel, m.index = i := by
    have : i < 8 := hi
    match i, this with
    | 0, _ => exact ⟨.sm2_0, rfl⟩
    | 1, _ => exact ⟨.sm3_0, rfl⟩
    | 2, _ => exact ⟨.sm4_0, rfl⟩
    | 3, _ => exact ⟨.sm4_1, rfl⟩
    | 4, _ => exact ⟨.sm5_0, rfl⟩
    | 5, _ => exact ⟨.sm5_1, rfl⟩
    | 6, _ => exact ⟨.sm6_0, rfl⟩
    | 7, _ => exact ⟨.sm6_2, rfl⟩
  obtain ⟨m, rfl⟩ := hm
  exact h m

/-- The empty mask has no models. -/
@[simp] theorem contains_empty (m : ShaderModel) : empty.contains m = false := by
  cases m <;> rfl

/-- The full mask has all models. -/
@[simp] theorem contains_all (m : ShaderModel) : all.contains m = true := by
  cases m <;> rfl

/-- The models that both masks have. -/
@[simp] theorem contains_and (s t : ModelMask) (m : ShaderModel) :
    (s &&& t).contains m = (s.contains m && t.contains m) :=
  BitVec.getLsbD_and

/-- The models that either mask has. -/
@[simp] theorem contains_or (s t : ModelMask) (m : ShaderModel) :
    (s ||| t).contains m = (s.contains m || t.contains m) :=
  BitVec.getLsbD_or

/-- A mask of a single model has that one only. -/
@[simp] theorem contains_only (a m : ShaderModel) : (only a).contains m = decide (a = m) := by
  cases a <;> cases m <;> rfl

/-- A mask from a model on has the models that are not older. -/
@[simp] theorem contains_atLeast (a m : ShaderModel) :
    (atLeast a).contains m = decide (a ≤ m) := by
  cases a <;> cases m <;> rfl

/-- A mask below a model has the models that are older. -/
@[simp] theorem contains_below (a m : ShaderModel) :
    (below a).contains m = decide (m < a) := by
  cases a <;> cases m <;> rfl

end ModelMask

end ShaderConformance
