import ShaderConformance.Fault
import ShaderConformance.Resource.Description
import ShaderConformance.Sampler.Basic

/-!
# Live resources and samplers

At most one resource lives under a type and slot, and at most one sampler under a
slot; both are kept in the order in which their names became live, and replacing
an entry keeps its place.  The registry also remembers the resources whose last
creation failed.
-/

namespace ShaderConformance

/-- A live resource: its description and what the backend gave for it. -/
structure Resource (H : Type) where
  desc : ResourceDesc
  handle : H
deriving DecidableEq, Repr

/-- The type and slot that name a resource. -/
def Resource.ref {H : Type} (r : Resource H) : ResourceRef := r.desc.ref

/-- The most resources that may live. -/
def maxResources : Nat := 32

/-- The most samplers that may be defined. -/
def maxSamplers : Nat := 32

/-- Live resources, samplers, and failed creations. -/
structure Registry (H : Type) where
  resources : List (Resource H)
  samplers : List SamplerDesc
  failed : List ResourceRef

/-- Puts an item in the place of the first one that has a property, and gives that
    one back. -/
def replaceFirst? {T : Type} (p : T → Bool) (item : T) : List T → Option (T × List T)
  | [] => none
  | x :: xs =>
    if p x then some (x, item :: xs)
    else (replaceFirst? p item xs).map fun (old, ys) => (old, x :: ys)

namespace Registry

variable {H : Type}

def empty : Registry H := ⟨[], [], []⟩

/-- The live resource of a name. -/
def get? (r : Registry H) (ref : ResourceRef) : Option (Resource H) :=
  r.resources.find? (·.ref = ref)

/-- The live resources of a type. -/
def ofType (r : Registry H) (type : ResourceType) : List (Resource H) :=
  r.resources.filter (·.desc.type = type)

/-- Makes a resource live, and gives back the one that it replaces. -/
def insert (r : Registry H) (resource : Resource H) :
    Except Fault (Option (Resource H)) × Registry H :=
  match replaceFirst? (·.ref = resource.ref) resource r.resources with
  | some (old, resources) => (.ok (some old), { r with resources })
  | none =>
    if maxResources ≤ r.resources.length then (.error (.tooManyResources maxResources), r)
    else (.ok none, { r with resources := r.resources ++ [resource] })

/-- Takes a live resource out. -/
def remove (r : Registry H) (ref : ResourceRef) : Option (Resource H) × Registry H :=
  (r.get? ref, { r with resources := r.resources.eraseP (·.ref = ref) })

/-- Takes all live resources out. -/
def drain (r : Registry H) : List (Resource H) × Registry H :=
  (r.resources, { r with resources := [] })

/-- Whether the last creation of a resource failed. -/
def isFailed (r : Registry H) (ref : ResourceRef) : Bool := r.failed.contains ref

/-- Whether any last creation failed. -/
def hasFailures (r : Registry H) : Bool := !r.failed.isEmpty

/-- Remembers that a creation failed. -/
def markFailed (r : Registry H) (ref : ResourceRef) : Registry H :=
  if r.isFailed ref then r else { r with failed := ref :: r.failed }

/-- Forgets that a creation failed. -/
def clearFailed (r : Registry H) (ref : ResourceRef) : Registry H :=
  { r with failed := r.failed.filter (· ≠ ref) }

/-- Defines a sampler, in the place of one with the same slot. -/
def setSampler (r : Registry H) (sampler : SamplerDesc) : Except Fault Unit × Registry H :=
  match replaceFirst? (·.slot = sampler.slot) sampler r.samplers with
  | some (_, samplers) => (.ok (), { r with samplers })
  | none =>
    if maxSamplers ≤ r.samplers.length then (.error (.tooManySamplers maxSamplers), r)
    else (.ok (), { r with samplers := r.samplers ++ [sampler] })

end Registry

end ShaderConformance
