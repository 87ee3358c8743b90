import ShaderConformance.Proofs.KeyedTable
import ShaderConformance.Proofs.Results

/-!
# A registry as a bounded map that keeps the order of insertion

Both lists of a registry are tables with room for 32 items each: the resources under their
types and slots, and the samplers under their slots.  What a registry holds and answers follows
from the operations that took effect on it.

## Main definitions

- `RegistryOp`: the operations on a registry
- `RegistryHistory`: a registry with the operations that took effect on it

## Main statements

- `RegistryHistory.Tabulated.perform`: every operation keeps the tables
- `RegistryHistory.tabulated_of`: the tables of a registry after any operations
- `RegistryHistory.refines_of`: a registry is a bounded map that keeps the order of insertion
-/

namespace ShaderConformance

/-! ## Operations on a registry -/

/-- An operation on a registry. -/
inductive RegistryOp (H : Type) where
  | insert (resource : Resource H)
  | get (ref : ResourceRef)
  | ofType (type : ResourceType)
  | remove (ref : ResourceRef)
  | drain
  | setSampler (sampler : SamplerDesc)
  | markFailed (ref : ResourceRef)
  | clearFailed (ref : ResourceRef)

namespace RegistryOp

variable {H : Type}

/-- What an operation does to the resources. -/
def onResources : RegistryOp H → Option (TableEvent (Resource H) ResourceRef)
  | insert resource => some (.put resource)
  | remove ref => some (.drop ref)
  | drain => some .clear
  | get _ | ofType _ | setSampler _ | markFailed _ | clearFailed _ => none

/-- What an operation does to the samplers. -/
def onSamplers : RegistryOp H → Option (TableEvent SamplerDesc UInt32)
  | setSampler sampler => some (.put sampler)
  | insert _ | get _ | ofType _ | remove _ | drain | markFailed _ | clearFailed _ => none

/-- The fault that refuses an operation, if any, and the registry after it; looking something
    up changes nothing. -/
def perform (r : Registry H) : RegistryOp H → Except Fault Unit × Registry H
  | insert resource => ((r.insert resource).1.map fun _ => (), (r.insert resource).2)
  | get _ | ofType _ => (.ok (), r)
  | remove ref => (.ok (), (r.remove ref).2)
  | drain => (.ok (), r.drain.2)
  | setSampler sampler => r.setSampler sampler
  | markFailed ref => (.ok (), r.markFailed ref)
  | clearFailed ref => (.ok (), r.clearFailed ref)

/-- Whether an operation remembers or forgets a failure. -/
def marks : RegistryOp H → Bool
  | markFailed _ | clearFailed _ => true
  | _ => false

end RegistryOp

/-- A registry with the operations that took effect on it, the last of which comes first. -/
structure RegistryHistory (H : Type) where
  done : List (RegistryOp H)
  registry : Registry H

namespace RegistryHistory

variable {H : Type}

/-- Goes on with an operation and the registry that it leaves; one that is refused took no
    effect. -/
def perform (s : RegistryHistory H) (op : RegistryOp H) : RegistryHistory H :=
  match op.perform s.registry with
  | (.ok (), registry) => ⟨op :: s.done, registry⟩
  | (.error _, registry) => { s with registry }

/-- The history of an empty registry under some operations. -/
def of (ops : List (RegistryOp H)) : RegistryHistory H := ops.foldl perform ⟨[], .empty⟩

/-- What was done to the resources. -/
def onResources (s : RegistryHistory H) : List (TableEvent (Resource H) ResourceRef) :=
  s.done.filterMap RegistryOp.onResources

/-- What was done to the samplers. -/
def onSamplers (s : RegistryHistory H) : List (TableEvent SamplerDesc UInt32) :=
  s.done.filterMap RegistryOp.onSamplers

/-- Both lists of the registry are tables with room for a number of items. -/
structure Tabulated (s : RegistryHistory H) : Prop where
  resources : Tabulates Resource.ref s.onResources s.registry.resources
  samplers : Tabulates SamplerDesc.slot s.onSamplers s.registry.samplers
  resources_le : s.registry.resources.length ≤ maxResources
  samplers_le : s.registry.samplers.length ≤ maxSamplers

/-- At the start nothing is alive. -/
theorem tabulated_empty : (of [] : RegistryHistory H).Tabulated where
  resources := .nil _
  samplers := .nil _
  resources_le := Nat.zero_le _
  samplers_le := Nat.zero_le _

section Step

variable {s : RegistryHistory H} {registry : Registry H}

/-- Where neither list changes, the tables stay as they are. -/
theorem Tabulated.untouched (h : s.Tabulated) {op : RegistryOp H}
    (hresources : op.onResources = none) (hsamplers : op.onSamplers = none)
    (hsame : registry.resources = s.registry.resources)
    (hsame' : registry.samplers = s.registry.samplers) :
    (⟨op :: s.done, registry⟩ : RegistryHistory H).Tabulated where
  resources := by
    rw [onResources, List.filterMap_cons_none hresources, hsame]
    exact h.resources
  samplers := by
    rw [onSamplers, List.filterMap_cons_none hsamplers, hsame']
    exact h.samplers
  resources_le := by rw [hsame]; exact h.resources_le
  samplers_le := by rw [hsame']; exact h.samplers_le

/-- A resource that becomes live is the last one put into its table. -/
theorem Tabulated.insert (h : s.Tabulated) {resource : Resource H}
    {replaced : Option (Resource H)}
    (hinsert : s.registry.insert resource = (.ok replaced, registry)) :
    (⟨.insert resource :: s.done, registry⟩ : RegistryHistory H).Tabulated := by
  unfold Registry.insert at hinsert
  split at hinsert
  · rename_i old resources hreplaced
    cases hinsert
    -- A resource in the place of another leaves the number as it was.
    have hlength : resources.length ≤ maxResources := by
      rw [length_replaceFirst? hreplaced]
      exact h.resources_le
    exact ⟨h.resources.put (.inl ⟨old, hreplaced⟩), h.samplers, hlength, h.samplers_le⟩
  · rename_i hnone
    split at hinsert
    · cases hinsert
    · -- A resource of its own is taken only where there is room for it.
      rename_i hroom
      cases hinsert
      refine ⟨h.resources.put (.inr ⟨hnone, rfl⟩), h.samplers, ?_, h.samplers_le⟩
      rw [List.length_append, List.length_singleton]
      omega

/-- A sampler that is defined is the last one put into its table. -/
theorem Tabulated.setSampler (h : s.Tabulated) {sampler : SamplerDesc}
    (hset : s.registry.setSampler sampler = (.ok (), registry)) :
    (⟨.setSampler sampler :: s.done, registry⟩ : RegistryHistory H).Tabulated := by
  unfold Registry.setSampler at hset
  split at hset
  · rename_i old samplers hreplaced
    cases hset
    -- A sampler in the place of another leaves the number as it was.
    have hlength : samplers.length ≤ maxSamplers := by
      rw [length_replaceFirst? hreplaced]
      exact h.samplers_le
    exact ⟨h.resources, h.samplers.put (.inl ⟨old, hreplaced⟩), h.resources_le, hlength⟩
  · rename_i hnone
    split at hset
    · cases hset
    · -- A sampler of its own is taken only where there is room for it.
      rename_i hroom
      cases hset
      refine ⟨h.resources, h.samplers.put (.inr ⟨hnone, rfl⟩), h.resources_le, ?_⟩
      rw [List.length_append, List.length_singleton]
      omega

/-- A refused operation leaves the registry as it was. -/
theorem registry_of_perform_error {op : RegistryOp H} {fault : Fault}
    (h : op.perform s.registry = (.error fault, registry)) : registry = s.registry := by
  cases op with
  | insert resource =>
    obtain ⟨hrefused, rfl⟩ := Prod.mk.inj h
    cases hinsert : (s.registry.insert resource).1 with
    | ok old => simp [hinsert, Except.map] at hrefused
    | error e => exact (Registry.insert_error (Prod.ext hinsert rfl)).1
  | setSampler sampler => exact Registry.setSampler_error h
  | get | ofType | remove | drain | markFailed | clearFailed => cases h

/-- A refused operation changes nothing. -/
theorem perform_eq_self {op : RegistryOp H} {fault : Fault}
    (h : (op.perform s.registry).1 = .error fault) : s.perform op = s := by
  have hop : op.perform s.registry = (.error fault, (op.perform s.registry).2) := Prod.ext h rfl
  rw [RegistryHistory.perform, hop]
  exact congrArg (RegistryHistory.mk s.done) (registry_of_perform_error hop)

/-- Every operation keeps the tables. -/
theorem Tabulated.perform (h : s.Tabulated) (op : RegistryOp H) : (s.perform op).Tabulated := by
  cases hresult : (op.perform s.registry).1 with
  | error fault =>
    -- A refused operation leaves the registry as it was.
    rw [perform_eq_self hresult]
    exact h
  | ok =>
    have hop : op.perform s.registry = (.ok (), (op.perform s.registry).2) :=
      Prod.ext hresult rfl
    rw [RegistryHistory.perform, hop]
    cases op with
    | insert resource =>
      obtain ⟨old, hinsert, -⟩ := map_eq_ok_iff.mp hresult
      exact h.insert (Prod.ext hinsert rfl)
    | setSampler sampler => exact h.setSampler (Prod.ext hresult rfl)
    | remove ref =>
      have hshorter := List.length_eraseP_le (p := (·.ref = ref)) (l := s.registry.resources)
      exact ⟨h.resources.drop ref, h.samplers, Nat.le_trans hshorter h.resources_le, h.samplers_le⟩
    | drain => exact ⟨.clear _ _, h.samplers, Nat.zero_le _, h.samplers_le⟩
    | get | ofType | clearFailed => exact h.untouched rfl rfl rfl rfl
    | markFailed ref =>
      exact h.untouched rfl rfl (Registry.resources_markFailed _ ref)
        (Registry.samplers_markFailed _ ref)

end Step

/-- The lists of a registry are tables after any operations. -/
theorem tabulated_of (ops : List (RegistryOp H)) : (of ops).Tabulated := by
  have hrun (s : RegistryHistory H) (h : s.Tabulated) :
      (ops.foldl RegistryHistory.perform s).Tabulated := by
    induction ops generalizing s with
    | nil => exact h
    | cons op ops ih => exact ih _ (h.perform op)
  exact hrun _ tabulated_empty

/-! ## The registry as a map -/

/-- The resource of the last insertion of a name that took effect and that neither a removal of
    the name nor a draining followed. -/
def live? (s : RegistryHistory H) (ref : ResourceRef) : Option (Resource H) :=
  latest? Resource.ref s.onResources ref

/-- When the name of a resource became live. -/
def since (s : RegistryHistory H) (resource : Resource H) : Nat :=
  liveSince Resource.ref s.onResources resource.ref

/-- The registry is a bounded map that keeps the order of insertion. -/
structure IsOrderedMap (s : RegistryHistory H) : Prop where
  refs_nodup : (s.registry.resources.map Resource.ref).Nodup
  resources_le : s.registry.resources.length ≤ maxResources
  slots_nodup : (s.registry.samplers.map SamplerDesc.slot).Nodup
  samplers_le : s.registry.samplers.length ≤ maxSamplers
  get : ∀ ref, s.registry.get? ref = s.live? ref
  mem : ∀ resource, resource ∈ s.registry.resources ↔ s.live? resource.ref = some resource
  /-- The live resources are listed in the order in which their names became live. -/
  ordered : s.registry.resources.Pairwise fun a b => s.since a < s.since b
  mem_ofType : ∀ type resource, resource ∈ s.registry.ofType type ↔
    resource.desc.type = type ∧ s.live? resource.ref = some resource
  ofType_ordered : ∀ type, (s.registry.ofType type).Pairwise fun a b => s.since a < s.since b

/-- What operations on the registry answer, and what they leave alone. -/
structure Responds (s : RegistryHistory H) : Prop where
  /-- An insertion hands back what it replaces. -/
  replaced : ∀ resource old registry, s.registry.insert resource = (.ok old, registry) →
    old = s.live? resource.ref
  /-- A replacement keeps the places, and a new name comes last. -/
  places : ∀ resource old registry, s.registry.insert resource = (.ok old, registry) →
    registry.resources.map Resource.ref =
      s.registry.resources.map Resource.ref ++ if old.isSome then [] else [resource.ref]
  /-- An insertion is refused if there is no room for a new name. -/
  insert_refused : ∀ resource, (∃ fault, (s.registry.insert resource).1 = .error fault) ↔
    s.registry.resources.length = maxResources ∧ s.live? resource.ref = none
  /-- So is a sampler. -/
  setSampler_refused : ∀ sampler, (∃ fault, (s.registry.setSampler sampler).1 = .error fault) ↔
    s.registry.samplers.length = maxSamplers ∧
      sampler.slot ∉ s.registry.samplers.map SamplerDesc.slot
  /-- What is refused leaves everything as it was, the registry that it returns included. -/
  unchanged : ∀ (op : RegistryOp H) fault, (op.perform s.registry).1 = .error fault →
    s.perform op = s
  /-- A failure that is remembered or forgotten changes no table. -/
  tables_kept : ∀ op : RegistryOp H, op.marks = true →
    (op.perform s.registry).2.resources = s.registry.resources ∧
      (op.perform s.registry).2.samplers = s.registry.samplers
  /-- Everything else changes no failure. -/
  failures_kept : ∀ op : RegistryOp H, op.marks = false →
    (op.perform s.registry).2.failed = s.registry.failed

variable {s : RegistryHistory H}

/-- A tabulated history is an ordered map. -/
theorem Tabulated.isOrderedMap (h : s.Tabulated) : s.IsOrderedMap := by
  have hordered : s.registry.resources.Pairwise fun a b => s.since a < s.since b := by
    have hrefs := h.resources.ordered
    rw [List.pairwise_map] at hrefs
    exact hrefs
  refine ⟨h.resources.nodup, h.resources_le, h.samplers.nodup, h.samplers_le, ?_, h.resources.mem,
    hordered, ?_, ?_⟩
  · intro ref
    exact h.resources.find?_eq ref
  · intro type resource
    rw [Registry.ofType, List.mem_filter, h.resources.mem resource, decide_eq_true_eq]
    exact and_comm
  · intro type
    exact hordered.filter _

/-- What is found under a name lives and has that name. -/
theorem IsOrderedMap.get?_eq_some_iff (h : s.IsOrderedMap) {ref : ResourceRef}
    {resource : Resource H} :
    s.registry.get? ref = some resource ↔ resource ∈ s.registry.resources ∧ resource.ref = ref := by
  constructor
  · intro hget
    exact ⟨Registry.mem_resources_of_get? hget, by simpa using List.find?_some hget⟩
  · rintro ⟨hmem, rfl⟩
    rw [h.get]
    exact (h.mem resource).mp hmem

/-- A tabulated history responds to all requests as a map does. -/
theorem Tabulated.responds (h : s.Tabulated) : s.Responds := by
  -- The registry's own lookup agrees with the history's.
  have hlive (ref : ResourceRef) : s.registry.get? ref = s.live? ref := h.resources.find?_eq ref
  constructor
  · intro resource old registry hinsert
    rw [← hlive]
    exact Registry.replaced_eq_get? hinsert
  · intro resource old registry hinsert
    obtain ⟨-, -, ⟨old', front, back, rfl, hbefore, hafter, hold⟩ | ⟨rfl, hafter⟩⟩ :=
      Registry.insert_ok hinsert
    · simp [hbefore, hafter, hold]
    · simp [hafter]
  -- A list that is not longer than its room is full if it is not shorter either.
  · intro resource
    rw [Registry.exists_insert_error_iff, hlive, Nat.le_antisymm_iff, and_iff_right h.resources_le]
  · intro sampler
    rw [Registry.exists_setSampler_error_iff, Nat.le_antisymm_iff, and_iff_right h.samplers_le]
  · exact fun op fault hrefused => perform_eq_self hrefused
  · intro op hmarks
    cases op with
    | markFailed ref =>
      exact ⟨Registry.resources_markFailed _ ref, Registry.samplers_markFailed _ ref⟩
    | clearFailed ref => exact ⟨rfl, rfl⟩
    | _ => cases hmarks
  · intro op hmarks
    cases op with
    | insert resource => exact Registry.failed_insert _ resource
    | setSampler sampler => exact Registry.failed_setSampler _ sampler
    | get | ofType | remove | drain => rfl
    | markFailed | clearFailed => cases hmarks

/-- After any operations, a registry is a bounded map that keeps the order of insertion and
    responds like one. -/
theorem refines_of (ops : List (RegistryOp H)) : (of ops).IsOrderedMap ∧ (of ops).Responds :=
  ⟨(tabulated_of ops).isOrderedMap, (tabulated_of ops).responds⟩

end RegistryHistory

end ShaderConformance
