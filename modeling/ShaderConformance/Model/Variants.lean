import ShaderConformance.Model.Mask

/-!
# The models worth compiling

What a compiler does changes between eras of models and where a test says so, and
is the same in between.  `variants` picks the models of a range that are worth
compiling: the first one, both sides of every change of the expectation, and one
model of every era that the range reaches.
-/

namespace ShaderConformance.ShaderModel

variable {T : Type} [DecidableEq T]

/-- The pairs of neighbouring models. -/
def neighbours : List (ShaderModel × ShaderModel) := all.zip all.tail

/-- Both sides of every change of the expectation inside a range. -/
def changes (lowest highest : ShaderModel) (expected : ShaderModel → T) : ModelMask :=
  (neighbours.filter fun (a, b) => lowest ≤ a ∧ b ≤ highest ∧ expected a ≠ expected b).foldl
    (fun mask (a, b) => mask ||| ModelMask.only a ||| ModelMask.only b) ModelMask.empty

/-- The set that `variants` lists. -/
def variantMask (lowest highest : ShaderModel) (expected : ShaderModel → T) : ModelMask :=
  let chosen := ModelMask.only lowest ||| changes lowest highest expected
  let chosen :=
    if sm4_0 ≤ highest ∧ lowest < sm6_0 ∧ ¬ chosen.toList.any (·.era = .middle) then
      chosen ||| ModelMask.only (max lowest sm4_0)
    else chosen
  if sm6_0 ≤ highest then chosen ||| ModelMask.only (max lowest sm6_0) else chosen

/-- The models of a range that are worth compiling, from the oldest to the
    newest; none if the range is empty. -/
def variants (lowest highest : ShaderModel) (expected : ShaderModel → T) : List ShaderModel :=
  if highest < lowest then [] else (variantMask lowest highest expected).toList

end ShaderConformance.ShaderModel
