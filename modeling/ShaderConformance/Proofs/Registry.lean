import ShaderConformance.Registry

/-!
# What a registry does with a created resource

## Main statements

- `insert_ok`: the new resource takes the place of the one with its name, or comes last
- `insert_error`: only a full registry takes no new name
-/

namespace ShaderConformance

/-- What is replaced stood somewhere, and everything else keeps its place. -/
theorem replaceFirst?_eq_some {T : Type} {p : T → Bool} {item old : T} {xs ys : List T}
    (h : replaceFirst? p item xs = some (old, ys)) :
    ∃ front back, xs = front ++ old :: back ∧ ys = front ++ item :: back ∧ p old = true := by
  induction xs generalizing ys with
  | nil => exact absurd h (by simp [replaceFirst?])
  | cons x xs ih =>
    rw [replaceFirst?] at h
    split at h
    · -- The first item is replaced.
      rename_i hx
      obtain ⟨rfl, rfl⟩ := Prod.mk.inj (Option.some.inj h)
      exact ⟨[], xs, rfl, rfl, hx⟩
    · -- It stays in front of what is found among the others.
      obtain ⟨⟨old', ys'⟩, hrest, heq⟩ := Option.map_eq_some_iff.mp h
      obtain ⟨rfl, rfl⟩ := Prod.mk.inj heq
      obtain ⟨front, back, rfl, rfl, hold⟩ := ih hrest
      exact ⟨x :: front, back, rfl, rfl, hold⟩

/-- Nothing is replaced if nothing matches. -/
theorem replaceFirst?_eq_none_iff {T : Type} {p : T → Bool} {item : T} {xs : List T} :
    replaceFirst? p item xs = none ↔ ∀ x ∈ xs, p x = false := by
  induction xs with
  | nil => simp [replaceFirst?]
  | cons x xs ih =>
    rw [replaceFirst?]
    split
    · rename_i hx
      simp [hx]
    · rename_i hx
      simp [ih, hx]

/-- What is replaced is what is found first. -/
theorem map_fst_replaceFirst? {T : Type} (p : T → Bool) (item : T) (xs : List T) :
    (replaceFirst? p item xs).map Prod.fst = xs.find? p := by
  induction xs with
  | nil => rfl
  | cons x xs ih =>
    rw [replaceFirst?]
    split
    · rename_i hx
      rw [List.find?_cons_of_pos hx]
      rfl
    · rename_i hx
      rw [List.find?_cons_of_neg hx, ← ih, Option.map_map]
      rfl

/-- What replaces an item is found first. -/
theorem find?_replaceFirst? {T : Type} {p : T → Bool} {item old : T} {xs ys : List T}
    (h : replaceFirst? p item xs = some (old, ys)) (hitem : p item = true) :
    ys.find? p = some item := by
  induction xs generalizing ys old with
  | nil => cases h
  | cons x xs ih =>
    rw [replaceFirst?] at h
    split at h
    · obtain ⟨-, rfl⟩ := Prod.mk.inj (Option.some.inj h)
      exact List.find?_cons_of_pos hitem
    · -- The first item stays, and does not have the property.
      rename_i hx
      obtain ⟨⟨old', ys'⟩, hrest, heq⟩ := Option.map_eq_some_iff.mp h
      obtain ⟨-, rfl⟩ := Prod.mk.inj heq
      rw [List.find?_cons_of_neg hx]
      exact ih hrest

/-- There are as many items after one was replaced. -/
theorem length_replaceFirst? {T : Type} {p : T → Bool} {item old : T} {xs ys : List T}
    (h : replaceFirst? p item xs = some (old, ys)) : ys.length = xs.length := by
  obtain ⟨front, back, rfl, rfl, -⟩ := replaceFirst?_eq_some h
  simp

namespace Registry

variable {H : Type} {r registry : Registry H} {resource : Resource H}
  {replaced : Option (Resource H)}

/-- Whether a resource of a name cannot become live: it would be a new name, and as many
    resources live as may. -/
def refuses (r : Registry H) (ref : ResourceRef) : Bool :=
  (r.get? ref).isNone && maxResources ≤ r.resources.length

/-- To clear a failure leaves the resources as they are. -/
@[simp] theorem resources_clearFailed (r : Registry H) (ref : ResourceRef) :
    (r.clearFailed ref).resources = r.resources := rfl

/-- It also leaves the room that there is. -/
@[simp] theorem refuses_clearFailed (r : Registry H) (ref ref' : ResourceRef) :
    (r.clearFailed ref).refuses ref' = r.refuses ref' := rfl

/-- To mark a failure leaves the resources as they are. -/
@[simp] theorem resources_markFailed (r : Registry H) (ref : ResourceRef) :
    (r.markFailed ref).resources = r.resources := by
  rw [markFailed]
  split <;> rfl

/-- It also leaves the samplers as they are. -/
@[simp] theorem samplers_markFailed (r : Registry H) (ref : ResourceRef) :
    (r.markFailed ref).samplers = r.samplers := by
  rw [markFailed]
  split <;> rfl

/-- A sampler that is defined or refused changes nothing but the samplers. -/
theorem setSampler_snd (r : Registry H) (sampler : SamplerDesc) :
    (r.setSampler sampler).2 = { r with samplers := (r.setSampler sampler).2.samplers } := by
  rw [setSampler]
  split
  · rfl
  · split <;> rfl

/-- To set a sampler leaves the resources as they are. -/
@[simp] theorem resources_setSampler (r : Registry H) (sampler : SamplerDesc) :
    (r.setSampler sampler).2.resources = r.resources := by
  rw [setSampler_snd]

/-- It also leaves the failures as they are. -/
@[simp] theorem failed_setSampler (r : Registry H) (sampler : SamplerDesc) :
    (r.setSampler sampler).2.failed = r.failed := by
  rw [setSampler_snd]

/-- What is found is in the registry. -/
theorem mem_resources_of_get? {ref : ResourceRef} (h : r.get? ref = some resource) :
    resource ∈ r.resources :=
  List.mem_of_find?_eq_some h

/-- The resources of a type are those that have it. -/
theorem mem_ofType {type : ResourceType} :
    resource ∈ r.ofType type ↔ resource ∈ r.resources ∧ resource.desc.type = type := by
  rw [ofType, List.mem_filter, decide_eq_true_eq]

/-- An insertion changes the live resources only: it replaces one with the same name, or
    adds the new one. -/
theorem insert_ok (h : r.insert resource = (.ok replaced, registry)) :
    registry.failed = r.failed ∧ registry.samplers = r.samplers ∧
      ((∃ old front back, replaced = some old ∧ r.resources = front ++ old :: back ∧
          registry.resources = front ++ resource :: back ∧ old.ref = resource.ref) ∨
        replaced = none ∧ registry.resources = r.resources ++ [resource]) := by
  rw [insert] at h
  split at h
  · -- A resource with the same name is replaced.
    rename_i old resources hreplace
    cases h
    obtain ⟨front, back, hfront, hback, hold⟩ := replaceFirst?_eq_some hreplace
    exact ⟨rfl, rfl, .inl ⟨old, front, back, rfl, hfront, hback, by simpa using hold⟩⟩
  · split at h
    · cases h
    · cases h
      exact ⟨rfl, rfl, .inr ⟨rfl, rfl⟩⟩

/-- A refused insertion leaves the registry as it was. -/
theorem insert_error {fault : Fault} (h : r.insert resource = (.error fault, registry)) :
    registry = r ∧ fault = .tooManyResources maxResources ∧ r.refuses resource.ref = true := by
  rw [insert] at h
  split at h
  · cases h
  · rename_i hnone
    split at h
    · rename_i hfull
      -- What was not replaced is not found either.
      have hget : r.get? resource.ref = none :=
        List.find?_eq_none.mpr fun x hx => by
          simpa using replaceFirst?_eq_none_iff.mp hnone x hx
      cases h
      exact ⟨rfl, rfl, by simp [refuses, hget, hfull]⟩
    · cases h

/-- An insertion changes no failure, whether it is refused or not. -/
theorem failed_insert (r : Registry H) (resource : Resource H) :
    (r.insert resource).2.failed = r.failed := by
  rw [insert]
  split
  · rfl
  · split <;> rfl

/-- What replaces a resource, or is added where there is room, is not refused. -/
theorem refuses_eq_false_of_insert (h : r.insert resource = (.ok replaced, registry)) :
    r.refuses resource.ref = false := by
  rw [insert] at h
  split at h
  · rename_i old resources hreplace
    obtain ⟨front, back, hfront, -, hold⟩ := replaceFirst?_eq_some hreplace
    have hget : (r.get? resource.ref).isSome := by
      rw [get?, List.find?_isSome]
      exact ⟨old, by simp [hfront], hold⟩
    obtain ⟨found, hfound⟩ := Option.isSome_iff_exists.mp hget
    simp [refuses, hfound]
  · split at h
    · cases h
    · rename_i hroom
      simp [refuses, hroom]

/-- An insertion gives back the resource that was found under its name. -/
theorem replaced_eq_get? (h : r.insert resource = (.ok replaced, registry)) :
    replaced = r.get? resource.ref := by
  rw [get?, ← map_fst_replaceFirst? _ resource]
  rw [insert] at h
  split at h
  · rename_i old resources hreplace
    cases h
    rw [hreplace]
    rfl
  · rename_i hnone
    split at h
    · cases h
    · cases h
      rw [hnone]
      rfl

/-- An inserted resource is found under its name. -/
theorem get?_insert (h : r.insert resource = (.ok replaced, registry)) :
    registry.get? resource.ref = some resource := by
  rw [insert] at h
  split at h
  · rename_i old resources hreplace
    cases h
    exact find?_replaceFirst? hreplace (decide_eq_true rfl)
  · rename_i hnone
    split at h
    · cases h
    · -- None of the others has the name.
      cases h
      have hothers : r.resources.find? (·.ref = resource.ref) = none :=
        List.find?_eq_none.mpr fun x hx => by simpa using replaceFirst?_eq_none_iff.mp hnone x hx
      rw [get?, List.find?_append, hothers]
      simp

/-- An insertion fails if there is no room for a new name. -/
theorem exists_insert_error_iff : (∃ fault, (r.insert resource).1 = .error fault) ↔
    maxResources ≤ r.resources.length ∧ r.get? resource.ref = none := by
  rw [get?, ← map_fst_replaceFirst? _ resource, insert]
  cases replaceFirst? (fun x => decide (x.ref = resource.ref)) resource r.resources with
  | some found => simp
  | none =>
    simp only [Option.map_none, and_true]
    split
    · rename_i hfull
      simp [hfull]
    · rename_i hroom
      simp [hroom]

/-- A sampler is refused if there is no room for a new slot. -/
theorem exists_setSampler_error_iff {sampler : SamplerDesc} :
    (∃ fault, (r.setSampler sampler).1 = .error fault) ↔
      maxSamplers ≤ r.samplers.length ∧ sampler.slot ∉ r.samplers.map SamplerDesc.slot := by
  rw [setSampler]
  split
  · -- The slot is that of the sampler that is replaced.
    rename_i old samplers hreplace
    obtain ⟨front, back, hfront, -, hold⟩ := replaceFirst?_eq_some hreplace
    have hslot : old.slot = sampler.slot := by simpa using hold
    simp [hfront, hslot]
  · rename_i hnone
    have hnew : sampler.slot ∉ r.samplers.map SamplerDesc.slot := by
      simpa using replaceFirst?_eq_none_iff.mp hnone
    split
    · rename_i hfull
      simp [hfull, hnew]
    · rename_i hroom
      simp [hroom]

/-- A refused sampler leaves the registry as it was. -/
theorem setSampler_error {sampler : SamplerDesc} {fault : Fault}
    (h : r.setSampler sampler = (.error fault, registry)) : registry = r := by
  rw [setSampler] at h
  split at h
  · cases h
  · split at h <;> cases h
    rfl

/-! ## Failed creations -/

/-- One more resource has failed. -/
theorem mem_failed_markFailed {ref ref' : ResourceRef} :
    ref' ∈ (r.markFailed ref).failed ↔ ref' = ref ∨ ref' ∈ r.failed := by
  rw [markFailed]
  split
  · -- The name is not added twice.
    rename_i hfailed
    have hmem : ref ∈ r.failed := by simpa [isFailed] using hfailed
    exact ⟨.inr, fun h => h.elim (· ▸ hmem) id⟩
  · exact List.mem_cons

/-- One resource has no longer failed. -/
theorem mem_failed_clearFailed {ref ref' : ResourceRef} :
    ref' ∈ (r.clearFailed ref).failed ↔ ref' ≠ ref ∧ ref' ∈ r.failed := by
  simp [clearFailed, and_comm]

/-- There are no failures if none is in the list. -/
theorem hasFailures_eq_false_iff : r.hasFailures = false ↔ r.failed = [] := by
  simp [hasFailures]

end Registry

end ShaderConformance
