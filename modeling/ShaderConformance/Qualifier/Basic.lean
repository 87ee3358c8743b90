import ShaderConformance.Model.Mask

/-!
# Qualifiers

A qualifier restricts a directive to some runners and shader models.  Its
expression is a disjunction of conjunctions of terms; a term bounds the model
from below or from above, or asks whether the runner has a tag.

Evaluating an expression gives a truth value for the runner at hand, the models
that the expression speaks of whatever the tags are, and those of them that are
left once the tags are known.
-/

namespace ShaderConformance

/-- A term of a qualifier expression. -/
inductive Term where
  | atLeast (model : ShaderModel)
  | below (model : ShaderModel)
  | tag (name : String) (negated : Bool)
deriving DecidableEq, Repr

/-- A disjunction of conjunctions of terms. -/
abbrev QualifierExpr := List (List Term)

/-- What a qualifier is evaluated against. -/
structure QualifierContext where
  /-- The lowest model of the current range. -/
  minimumModel : ShaderModel
  /-- The tags of the runner. -/
  tags : List String
deriving Repr

/-- An evaluated qualifier. -/
structure Qualifier where
  /-- The truth value for the runner. -/
  holds : Bool
  /-- The models that the expression applies to, whatever the tags. -/
  models : ModelMask
  /-- The models of the disjuncts whose tags agree with the runner. -/
  gated : ModelMask
deriving DecidableEq, Repr

/-- The tags that a runner may have. -/
def knownTags : List String :=
  ["d3d11", "d3d12", "d3d9", "glsl", "llvmpipe", "msl", "mvk<1.2.11", "mvk", "opengl", "vulkan",
   "warp", "wgpu"]

namespace Term

/-- The models that a term allows; a tag allows all of them. -/
def models : Term → ModelMask
  | atLeast m => .atLeast m
  | below m => .below m
  | tag _ _ => .all

/-- Whether a term agrees with the tags of a runner; a bound always does. -/
def agrees (tags : List String) : Term → Bool
  | tag name negated => tags.contains name != negated
  | _ => true

/-- Whether a term holds in a context: bounds are compared with the lowest model of the
    range, and tags are looked up. -/
def holds (context : QualifierContext) : Term → Bool
  | atLeast m => m ≤ context.minimumModel
  | below m => context.minimumModel < m
  | tag name negated => context.tags.contains name != negated

end Term

namespace QualifierExpr

/-- The models that all terms of a conjunction allow. -/
def conjunctionModels (terms : List Term) : ModelMask :=
  terms.foldr (fun t mask => t.models &&& mask) .all

/-- The union of the models of some conjunctions. -/
def models (e : QualifierExpr) : ModelMask :=
  e.foldr (fun terms mask => conjunctionModels terms ||| mask) .empty

/-- The conjunctions whose tags agree with a runner. -/
def agreeing (tags : List String) (e : QualifierExpr) : QualifierExpr :=
  e.filter fun terms => terms.all (·.agrees tags)

/-- Evaluates an expression. -/
def evaluate (context : QualifierContext) (e : QualifierExpr) : Qualifier where
  holds := e.any fun terms => terms.all (·.holds context)
  models := models e
  gated := models (agreeing context.tags e)

end QualifierExpr

/-- The value of an absent expression. -/
def Qualifier.always : Qualifier := ⟨true, .all, .all⟩

end ShaderConformance
