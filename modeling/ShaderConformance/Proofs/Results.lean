import Mathlib.Data.List.Forall2

/-!
# Where accepted results come from

Readers are made of steps that may find a fault.  If the whole is accepted, so was every step.
Where a step replaces a part of what is read, the last such step counts.
-/

namespace ShaderConformance

variable {E S T : Type}

/-- A mapped result is that of a success. -/
theorem map_eq_ok_iff {x : Except E S} {f : S → T} {value : T} :
    x.map f = .ok value ↔ ∃ result, x = .ok result ∧ f result = value := by
  cases x with
  | error fault => simp [Except.map]
  | ok result => simp [Except.map]

/-- Two steps succeed if one does and then the other. -/
theorem bind_eq_ok_iff {x : Except E S} {f : S → Except E T} {value : T} :
    x >>= f = .ok value ↔ ∃ result, x = .ok result ∧ f result = .ok value := by
  cases x with
  | error fault => simp [bind, Except.bind]
  | ok result => simp [bind, Except.bind]

/-- Reading one thing after another gives all or nothing. -/
theorem mapM_eq_some_iff {read? : S → Option T} {is : List S} {xs : List T} :
    is.mapM read? = some xs ↔ List.Forall₂ (fun i x => read? i = some x) is xs := by
  induction is generalizing xs with
  | nil =>
    rw [List.mapM_nil, List.forall₂_nil_left_iff]
    constructor
    · intro h
      exact (Option.some.inj h).symm
    · rintro rfl
      rfl
  | cons i is ih =>
    -- The head is read before the tail, and both have to be.
    simp only [List.mapM_cons, List.forall₂_cons_left_iff, Option.bind_eq_bind, Option.pure_def,
      Option.bind_eq_some_iff, Option.some.injEq, ← ih]
    constructor
    · rintro ⟨x, hx, more, hmore, rfl⟩
      exact ⟨x, more, hx, hmore, rfl⟩
    · rintro ⟨x, more, hx, hmore, rfl⟩
      exact ⟨x, hx, more, hmore, rfl⟩

/-- All succeed if each does. -/
theorem mapM_eq_ok_iff {read : S → Except E T} {is : List S} {xs : List T} :
    is.mapM read = .ok xs ↔ List.Forall₂ (fun i x => read i = .ok x) is xs := by
  induction is generalizing xs with
  | nil =>
    rw [List.mapM_nil, List.forall₂_nil_left_iff]
    constructor
    · intro h
      exact (Except.ok.inj h).symm
    · rintro rfl
      rfl
  | cons i is ih =>
    simp only [List.mapM_cons, List.forall₂_cons_left_iff, bind_eq_ok_iff, ← ih]
    constructor
    · rintro ⟨x, hx, more, hmore, hcons⟩
      exact ⟨x, more, hx, hmore, (Except.ok.inj hcons).symm⟩
    · rintro ⟨x, more, hx, hmore, rfl⟩
      exact ⟨x, hx, more, hmore, rfl⟩

/-! ## Parts that steps replace -/

section LastStep

variable {D : Type} {step : S → D → S}

/-- Where steps replace a part of a state, the last one of them counts. -/
theorem foldl_last (part : S → T) (pick : D → Option T)
    (h : ∀ s d, part (step s d) = (pick d).getD (part s)) (s : S) (ds : List D) :
    part (ds.foldl step s) = (ds.filterMap pick).getLast?.getD (part s) := by
  induction ds generalizing s with
  | nil => rfl
  | cons d more ih =>
    rw [List.foldl_cons, ih, h, List.filterMap_cons]
    cases pick d with
    | none => rfl
    | some value => cases more.filterMap pick <;> simp [List.getLast?_cons]

/-- A part that may be missing is as before only if no step replaces it. -/
theorem foldl_last_or (part : S → Option T) (pick : D → Option T)
    (h : ∀ s d, part (step s d) = (pick d).or (part s)) (s : S) (ds : List D) :
    part (ds.foldl step s) = (ds.filterMap pick).getLast?.or (part s) := by
  have hlast := foldl_last part (fun d => (pick d).map some)
    (fun s d => by rw [h]; cases pick d <;> rfl) s ds
  rw [hlast, ← List.map_filterMap, List.getLast?_map]
  cases (ds.filterMap pick).getLast? <;> rfl

end LastStep

end ShaderConformance
