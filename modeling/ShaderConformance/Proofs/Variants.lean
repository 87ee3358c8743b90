import ShaderConformance.Model.Variants

/-!
# The models worth compiling represent their range

Every model of a range behaves like one of the variants of the range: one of its era, from
which on the expectation stays the same.  It may lie below or above the model, since a
change of the expectation brings both of its sides.

## Main definitions

- `Constant`: an expectation is the same between two models
- `Represents`: some models stand for all models of a range

## Main statement

- `represents_variants`: the variants of a range represent it
-/

namespace ShaderConformance.ShaderModel

/-! ## The order of models -/

/-- Every model but the oldest has one before it. -/
theorem exists_older {m : ShaderModel} (h : 0 < m.index) :
    ∃ a : ShaderModel, m.index = a.index + 1 := by
  have hall : ∀ m ∈ all, 0 < m.index → ∃ a ∈ all, m.index = a.index + 1 := by decide
  obtain ⟨a, -, ha⟩ := hall m (mem_all m) h
  exact ⟨a, ha⟩

/-- Below another model, a model has one after it. -/
theorem exists_newer {m b : ShaderModel} (h : m < b) :
    ∃ c : ShaderModel, c.index = m.index + 1 := by
  have hall : ∀ b ∈ all, ∀ m ∈ all, m < b → ∃ c ∈ all, c.index = m.index + 1 := by decide
  obtain ⟨c, -, hc⟩ := hall b (mem_all b) m (mem_all m) h
  exact ⟨c, hc⟩

/-- Neighbours are models with one step between them. -/
theorem mem_neighbours_iff {a b : ShaderModel} : (a, b) ∈ neighbours ↔ b.index = a.index + 1 := by
  cases a <;> cases b <;> decide

/-- The first era ends where the second one begins. -/
theorem era_eq_legacy_iff {m : ShaderModel} : m.era = .legacy ↔ m < sm4_0 := by
  cases m <;> decide

/-- The second era is between the two others. -/
theorem era_eq_middle_iff {m : ShaderModel} : m.era = .middle ↔ sm4_0 ≤ m ∧ m < sm6_0 := by
  cases m <;> decide

/-- The third era has no end. -/
theorem era_eq_modern_iff {m : ShaderModel} : m.era = .modern ↔ sm6_0 ≤ m := by
  cases m <;> decide

/-- The newer of two models in order is the second one. -/
theorem max_eq_right {a b : ShaderModel} (h : a ≤ b) : max a b = b := if_pos h

/-- The newer of two models is no older than the first one. -/
theorem le_max_left (a b : ShaderModel) : a ≤ max a b := by
  change a ≤ if a ≤ b then b else a
  split
  · assumption
  · exact Nat.le_refl _

theorem le_max_right (a b : ShaderModel) : b ≤ max a b := by
  change b ≤ if a ≤ b then b else a
  split
  · exact Nat.le_refl _
  · exact Nat.le_of_lt (Nat.not_le.mp ‹_›)

/-- The older of two models is no newer than the second one. -/
theorem min_le_right (a b : ShaderModel) : min a b ≤ b := by
  change (if a ≤ b then a else b) ≤ b
  split
  · assumption
  · exact Nat.le_refl _

/-- What neither of two models is newer than, the newer of them is not. -/
theorem max_le {a b c : ShaderModel} (ha : a ≤ c) (hb : b ≤ c) : max a b ≤ c := by
  change (if a ≤ b then b else a) ≤ c
  split
  · exact hb
  · exact ha

/-! ## What is chosen -/

section Chosen

variable {T : Type} [DecidableEq T] {lowest highest m : ShaderModel} {expected : ShaderModel → T}

/-- A mask that collects pairs has both models of each. -/
theorem contains_foldl_pairs_iff {pairs : List (ShaderModel × ShaderModel)} {mask : ModelMask} :
    (pairs.foldl (fun mask (a, b) => mask ||| ModelMask.only a ||| ModelMask.only b)
        mask).contains m = true ↔
      mask.contains m = true ∨ ∃ a b, (a, b) ∈ pairs ∧ (m = a ∨ m = b) := by
  induction pairs generalizing mask with
  | nil => simp
  | cons pair pairs ih =>
    obtain ⟨a, b⟩ := pair
    rw [List.foldl_cons, ih]
    simp only [ModelMask.contains_or, ModelMask.contains_only, Bool.or_eq_true, decide_eq_true_eq,
      List.mem_cons, Prod.mk.injEq, or_and_right, exists_or, or_assoc, and_assoc, exists_eq_left,
      exists_and_left, eq_comm (a := m)]

/-- A model is at a change if the expectation differs at a neighbour inside the range. -/
theorem contains_changes_iff :
    (changes lowest highest expected).contains m = true ↔
      ∃ a b : ShaderModel, b.index = a.index + 1 ∧ lowest ≤ a ∧ b ≤ highest ∧
        expected a ≠ expected b ∧ (m = a ∨ m = b) := by
  rw [changes, contains_foldl_pairs_iff]
  simp [mem_neighbours_iff, and_assoc]

/-- The first model of a range and the models at changes. -/
def IsChosen (lowest highest : ShaderModel) (expected : ShaderModel → T) (m : ShaderModel) : Prop :=
  m = lowest ∨ (changes lowest highest expected).contains m = true

/-- Models are chosen at the lower end and on both sides of a change. -/
theorem isChosen_iff {c : ShaderModel} :
    (ModelMask.only lowest ||| changes lowest highest expected).contains c = true ↔
      IsChosen lowest highest expected c := by
  rw [ModelMask.contains_or, ModelMask.contains_only, Bool.or_eq_true, decide_eq_true_eq,
    eq_comm (a := lowest), IsChosen]

/-- What is chosen has no model of the middle era. -/
def LacksMiddle (lowest highest : ShaderModel) (expected : ShaderModel → T) : Prop :=
  ∀ c, IsChosen lowest highest expected c → c.era ≠ .middle

/-- The second era is missing if none of its models is chosen. -/
theorem lacksMiddle_iff :
    ¬ (ModelMask.only lowest ||| changes lowest highest expected).toList.any (·.era = .middle) ↔
      LacksMiddle lowest highest expected := by
  simp [LacksMiddle, ModelMask.toList, mem_all, isChosen_iff, - ModelMask.contains_or]

/-- What is compiled for are the chosen models, and one model of each later era. -/
theorem contains_variantMask_iff :
    (variantMask lowest highest expected).contains m = true ↔
      IsChosen lowest highest expected m ∨
      (sm4_0 ≤ highest ∧ lowest < sm6_0 ∧ LacksMiddle lowest highest expected ∧
        m = max lowest sm4_0) ∨
      sm6_0 ≤ highest ∧ m = max lowest sm6_0 := by
  have hif (p : Prop) [Decidable p] (mask : ModelMask) (c : ShaderModel) :
      (if p then mask ||| ModelMask.only c else mask).contains m = true ↔
        mask.contains m = true ∨ p ∧ m = c := by
    split <;> simp [*, eq_comm (a := c)]
  rw [variantMask]
  simp only [hif, isChosen_iff, lacksMiddle_iff, and_assoc, or_assoc]

end Chosen

/-! ## Constant expectations -/

section Constant

variable {T : Type} {f : ShaderModel → T} {a b c m : ShaderModel}

/-- Nothing changes between two models, whichever of them is the older one. -/
def Constant (f : ShaderModel → T) (a b : ShaderModel) : Prop :=
  ∀ k, (a ≤ k ∧ k ≤ b) ∨ (b ≤ k ∧ k ≤ a) → f k = f a

/-- What is expected of a single model does not change. -/
theorem constant_refl (f : ShaderModel → T) (a : ShaderModel) : Constant f a a := by
  intro k hk
  have hka : k = a := index_injective (by simp only [le_def] at hk; omega)
  rw [hka]

/-- What does not change is the same at both ends. -/
theorem Constant.eq (h : Constant f a b) (hle : a ≤ b) : f b = f a :=
  h b (.inl ⟨hle, Nat.le_refl _⟩)

/-- Between two models of a constant stretch nothing changes either. -/
theorem Constant.within (h : Constant f a b) {c d : ShaderModel} (hac : a ≤ c) (hcb : c ≤ b)
    (had : a ≤ d) (hdb : d ≤ b) : Constant f c d := by
  intro k hk
  have hak : a ≤ k ∧ k ≤ b := by
    simp only [le_def] at *
    omega
  rw [h k (.inl hak), h c (.inl ⟨hac, hcb⟩)]

theorem Constant.trans (hab : Constant f a b) (hbc : Constant f b c) (hle : a ≤ b) (hle' : b ≤ c) :
    Constant f a c := by
  intro k hk
  by_cases hkb : k ≤ b
  · exact hab k (.inl ⟨by simp only [le_def] at *; omega, hkb⟩)
  · rw [hbc k (.inl (by simp only [le_def] at *; omega)), hab.eq hle]

/-- Nothing changes from a model to the next one if it is expected to be alike. -/
theorem constant_of_newer (hnext : b.index = a.index + 1) (heq : f b = f a) : Constant f a b := by
  intro k hk
  have hkab : k = a ∨ k = b := by
    simp only [le_def] at hk
    by_cases hka : k.index = a.index
    · exact .inl (index_injective hka)
    · exact .inr (index_injective (by omega))
  obtain rfl | rfl := hkab
  · rfl
  · exact heq

end Constant

section Range

variable {T : Type} [DecidableEq T] {lowest highest m : ShaderModel} {expected : ShaderModel → T}

/-- Going down from a model of a range, nothing changes before a chosen one. -/
theorem exists_chosen_below (expected : ShaderModel → T) (hlow : lowest ≤ m)
    (hhigh : m ≤ highest) :
    ∃ p, lowest ≤ p ∧ p ≤ m ∧ IsChosen lowest highest expected p ∧ Constant expected p m := by
  induction hn : m.index generalizing m with
  | zero =>
    -- The oldest model can only be the first one of the range.
    obtain rfl : m = lowest := index_injective (by rw [le_def] at hlow; omega)
    exact ⟨m, hlow, Nat.le_refl _, .inl rfl, constant_refl _ m⟩
  | succ n ih =>
    by_cases hfirst : m = lowest
    · exact ⟨m, hlow, Nat.le_refl _, .inl hfirst, constant_refl _ m⟩
    · obtain ⟨a, ha⟩ := exists_older (m := m) (by omega)
      have hindex : lowest.index ≠ m.index := fun h => hfirst (index_injective h).symm
      have hlow' : lowest ≤ a := by
        rw [le_def] at *
        omega
      have hhigh' : a ≤ highest := by
        rw [le_def] at *
        omega
      by_cases heq : expected m = expected a
      · -- What holds of the older model goes on to this one.
        obtain ⟨p, hp, hpa, hchosen, hconstant⟩ := ih hlow' hhigh' (by omega)
        have hle : a ≤ m := by
          rw [le_def]
          omega
        exact ⟨p, hp, Nat.le_trans hpa hle, hchosen,
          hconstant.trans (constant_of_newer ha heq) hpa hle⟩
      · -- The expectation changes here.
        have hchange : (changes lowest highest expected).contains m = true :=
          contains_changes_iff.mpr ⟨a, m, ha, hlow', hhigh, fun h => heq h.symm, .inr rfl⟩
        exact ⟨m, hlow, Nat.le_refl _, .inr hchange, constant_refl _ m⟩

/-- Going up from a model of a range, nothing changes before a chosen one or its end. -/
theorem exists_chosen_above (expected : ShaderModel → T) (hlow : lowest ≤ m)
    (hhigh : m ≤ highest) :
    ∃ q, m ≤ q ∧ q ≤ highest ∧ (q = highest ∨ IsChosen lowest highest expected q) ∧
      Constant expected m q := by
  induction hn : highest.index - m.index generalizing m with
  | zero =>
    obtain rfl : m = highest := index_injective (by rw [le_def] at hhigh; omega)
    exact ⟨m, Nat.le_refl _, hhigh, .inl rfl, constant_refl _ m⟩
  | succ n ih =>
    have hlt : m < highest := by
      rw [lt_def]
      omega
    obtain ⟨c, hc⟩ := exists_newer hlt
    have hle : m ≤ c := by
      rw [le_def]
      omega
    have hhigh' : c ≤ highest := by
      rw [le_def, hc]
      exact hlt
    by_cases heq : expected c = expected m
    · -- What holds of the newer model holds from this one on.
      obtain ⟨q, hcq, hq, hchosen, hconstant⟩ := ih (Nat.le_trans hlow hle) hhigh' (by omega)
      exact ⟨q, Nat.le_trans hle hcq, hq, hchosen,
        (constant_of_newer hc heq).trans hconstant hle hcq⟩
    · -- The expectation changes after this one.
      have hchange : (changes lowest highest expected).contains m = true :=
        contains_changes_iff.mpr ⟨m, c, hc, hlow, hhigh', fun h => heq h.symm, .inl rfl⟩
      exact ⟨m, Nat.le_refl _, hhigh, .inr (.inr hchange), constant_refl _ m⟩

/-- What is chosen lies in the range. -/
theorem isChosen_mem_range {c : ShaderModel} (hrange : lowest ≤ highest)
    (h : IsChosen lowest highest expected c) : lowest ≤ c ∧ c ≤ highest := by
  obtain rfl | hchange := h
  · exact ⟨Nat.le_refl _, hrange⟩
  · obtain ⟨a, b, hnext, hlow, hhigh, -, rfl | rfl⟩ := contains_changes_iff.mp hchange <;>
      simp only [le_def] at * <;> omega

/-- Every variant lies in the range. -/
theorem mem_range_of_contains (hrange : lowest ≤ highest)
    (h : (variantMask lowest highest expected).contains m = true) : lowest ≤ m ∧ m ≤ highest := by
  obtain hchosen | ⟨hmiddle, -, -, rfl⟩ | ⟨hmodern, rfl⟩ := contains_variantMask_iff.mp h
  · exact isChosen_mem_range hrange hchosen
  · exact ⟨le_max_left _ _, max_le hrange hmiddle⟩
  · exact ⟨le_max_left _ _, max_le hrange hmodern⟩

/-- Some variant of the era of a model is expected to be like it. -/
theorem exists_variant (expected : ShaderModel → T) (hlow : lowest ≤ m) (hhigh : m ≤ highest) :
    ∃ s, (variantMask lowest highest expected).contains s = true ∧ s.era = m.era ∧
      Constant expected s m := by
  obtain ⟨p, hlowp, hpm, hchosen, hconstant⟩ := exists_chosen_below expected hlow hhigh
  -- A model from `p` on up to `m` stands for `m`, if it is a variant of the same era.
  have hstands {s : ShaderModel} (hs : (variantMask lowest highest expected).contains s = true)
      (hps : p ≤ s) (hsm : s ≤ m) (hera : s.era = m.era) :
      ∃ s, (variantMask lowest highest expected).contains s = true ∧ s.era = m.era ∧
        Constant expected s m :=
    ⟨s, hs, hera, hconstant.within hps hsm hpm (Nat.le_refl _)⟩
  by_cases hera : p.era = m.era
  · exact hstands (contains_variantMask_iff.mpr (.inl hchosen)) (Nat.le_refl _) hpm hera
  -- Otherwise the era of `m` begins after `p`.
  cases hm : m.era with
  | legacy =>
    rw [hm, era_eq_legacy_iff] at hera
    rw [era_eq_legacy_iff] at hm
    exact absurd (Nat.lt_of_le_of_lt hpm hm) hera
  | modern =>
    rw [hm, era_eq_modern_iff] at hera
    rw [← hm]
    have hfirst : sm6_0 ≤ m := era_eq_modern_iff.mp hm
    have hbefore : p ≤ sm6_0 := by
      simp only [le_def] at *
      omega
    refine hstands (contains_variantMask_iff.mpr (.inr (.inr ⟨Nat.le_trans hfirst hhigh, ?_⟩)))
      hbefore hfirst (by rw [hm]; rfl)
    rw [max_eq_right (Nat.le_trans hlowp hbefore)]
  | middle =>
    rw [hm, era_eq_middle_iff] at hera
    rw [← hm]
    obtain ⟨hfirst, hlast⟩ := era_eq_middle_iff.mp hm
    have hbefore : p ≤ sm4_0 := by
      simp only [le_def, lt_def] at *
      omega
    by_cases hlacks : LacksMiddle lowest highest expected
    · -- The first model of the era was added.
      have hlow4 : lowest ≤ sm4_0 := Nat.le_trans hlowp hbefore
      refine hstands (contains_variantMask_iff.mpr (.inr (.inl ⟨Nat.le_trans hfirst hhigh, ?_,
        hlacks, ?_⟩))) hbefore hfirst (by rw [hm]; rfl)
      · exact Nat.lt_of_le_of_lt hlow4 (by decide)
      · rw [max_eq_right hlow4]
    · -- A change inside the era brought a model of it, perhaps above `m`.
      obtain ⟨c, hc, hcera⟩ : ∃ c, IsChosen lowest highest expected c ∧ c.era = .middle := by
        simpa [LacksMiddle] using hlacks
      obtain ⟨hcfirst, hclast⟩ := era_eq_middle_iff.mp hcera
      obtain ⟨q, hmq, hqhigh, hq, hup⟩ := exists_chosen_above expected hlow hhigh
      have hvariant {c : ShaderModel} (hc : IsChosen lowest highest expected c) :
          (variantMask lowest highest expected).contains c = true :=
        contains_variantMask_iff.mpr (.inl hc)
      have hwhole : Constant expected p q := hconstant.trans hup hpm hmq
      by_cases hcq : c ≤ q
      · exact ⟨c, hvariant hc, hcera.trans hm.symm,
          hwhole.within (Nat.le_trans hbefore hcfirst) hcq hpm hmq⟩
      · -- Then nothing changes from `m` up to a change below `c`.
        have hcrange := isChosen_mem_range (Nat.le_trans hlow hhigh) hc
        have hqc : q < c := Nat.lt_of_not_le hcq
        have hqchosen : IsChosen lowest highest expected q := by
          refine hq.resolve_left fun hend => hcq ?_
          rw [hend]
          exact hcrange.2
        have hqera : q.era = .middle := era_eq_middle_iff.mpr
          ⟨Nat.le_trans hfirst hmq, Nat.lt_trans hqc hclast⟩
        exact ⟨q, hvariant hqchosen, hqera.trans hm.symm,
          hwhole.within (Nat.le_trans hpm hmq) (Nat.le_refl _) hpm hmq⟩

/-- Some models stand for all models of a range: each of those has one of its era among
    them, from which on the expectation does not change. -/
structure Represents (lowest highest : ShaderModel) (expected : ShaderModel → T)
    (models : List ShaderModel) : Prop where
  ascending : models.Pairwise (· < ·)
  inRange : ∀ s ∈ models, lowest ≤ s ∧ s ≤ highest
  starts : models.head? = some lowest
  covers : ∀ m, lowest ≤ m → m ≤ highest → ∃ s ∈ models, s.era = m.era ∧ Constant expected s m

/-- The least model of an ascending list comes first. -/
theorem head?_of_ascending {models : List ShaderModel} (h : models.Pairwise (· < ·))
    (hmem : m ∈ models) (hleast : ∀ s ∈ models, m ≤ s) : models.head? = some m := by
  cases models with
  | nil => cases hmem
  | cons s models =>
    obtain rfl | hmem := List.mem_cons.mp hmem
    · rfl
    · have hlt : s < m := List.rel_of_pairwise_cons h hmem
      exact absurd (hleast s List.mem_cons_self) (Nat.not_le.mpr hlt)

/-- The variants of a range represent it, whatever is expected. -/
theorem represents_variants (hrange : lowest ≤ highest) (expected : ShaderModel → T) :
    Represents lowest highest expected (variants lowest highest expected) := by
  -- In a range that is not empty the variants are the models of the mask.
  have hlist : variants lowest highest expected =
      all.filter (variantMask lowest highest expected).contains :=
    if_neg (Nat.not_lt.mpr hrange)
  have hmem (s : ShaderModel) : s ∈ variants lowest highest expected ↔
      (variantMask lowest highest expected).contains s = true := by
    rw [hlist, List.mem_filter]
    exact and_iff_right (mem_all s)
  have hascending : (variants lowest highest expected).Pairwise (· < ·) := by
    rw [hlist]
    exact List.Pairwise.filter _ (by decide)
  have hinRange (s : ShaderModel) (hs : s ∈ variants lowest highest expected) :
      lowest ≤ s ∧ s ≤ highest := mem_range_of_contains hrange ((hmem s).mp hs)
  refine ⟨hascending, hinRange, ?_, fun m hlow hhigh => ?_⟩
  · -- The lowest model is always compiled for.
    have hfirst : lowest ∈ variants lowest highest expected :=
      (hmem lowest).mpr (contains_variantMask_iff.mpr (.inl (.inl rfl)))
    exact head?_of_ascending hascending hfirst fun s hs => (hinRange s hs).1
  · obtain ⟨s, hs, hera, hconstant⟩ := exists_variant expected hlow hhigh
    exact ⟨s, (hmem s).mpr hs, hera, hconstant⟩

/-- A test that old models are expected to refuse changes at the border of two eras. -/
example : variants .sm2_0 .sm6_2 (fun m => decide (m < .sm4_0)) =
    [.sm2_0, .sm3_0, .sm4_0, .sm6_0] := by decide

end Range

end ShaderConformance.ShaderModel
