import ShaderConformance.Proofs.ExactValues

/-!
# Representable steps between numbers

Numbers are compared by the difference of their order keys.  The keys of numbers lie on a line
without gaps and are ordered as the exact values, so the difference counts the values that
separate the numbers.  In words of twice the width the keys and their difference do not overflow.

## Main definitions

- `stepsBetween`: how many representable steps separate two numbers
- `CountsSteps`: a comparison of numbers by the steps that separate them
- `wordKey`, `ComputesInWords`: that comparison in words of twice the width

## Main statements

- `HasPatterns.stepsBetween_eq`: the steps are the difference of the order keys
- `toInt_wordKey_eq_orderKey`: the order key is computed in words
- `within_countsSteps`: how numbers of both widths are compared
-/

namespace ShaderConformance

open Floating Floating.Interchange

/-! ## Steps -/

section Steps

variable {X : Type} (isNaN : X → Bool) (value : X → Extended)

/-- The values of numbers above the lower and up to the higher of two. -/
def separating (a b : X) : Set Extended :=
  {v | (∃ c, isNaN c = false ∧ value c = v) ∧ min (value a) (value b) < v ∧
    v ≤ max (value a) (value b)}

/-- How many steps from one value of a number to the next separate two numbers. -/
noncomputable def stepsBetween (a b : X) : ℕ∞ := (separating isNaN value a b).encard

/-- Order keys lay the values of numbers out on a line without gaps, from the lowest number to the
    highest one, and numbers are compared by the steps that separate them.  What is not a number is
    near what is not a number. -/
structure CountsSteps (key : X → ℤ) (lowest highest : X) (within : UInt32 → X → X → Bool) :
    Prop where
  value_lowest : isNaN lowest = false ∧ value lowest = ⊥
  value_highest : isNaN highest = false ∧ value highest = ⊤
  key_le_iff : ∀ a b, isNaN a = false → isNaN b = false → (key a ≤ key b ↔ value a ≤ value b)
  key_eq_iff : ∀ a b, isNaN a = false → isNaN b = false → (key a = key b ↔ value a = value b)
  onto : ∀ place, (∃ a, isNaN a = false ∧ key a = place) ↔ key lowest ≤ place ∧ place ≤ key highest
  within_iff : ∀ steps a b, isNaN a = false → isNaN b = false →
    (within steps a b = true ↔ stepsBetween isNaN value a b ≤ steps.toNat)
  symm : ∀ steps a b, within steps a b = within steps b a
  refl : ∀ steps a, within steps a a = true
  mono : ∀ steps more a b, steps ≤ more → within steps a b = true → within more a b = true
  nan : ∀ steps a b, isNaN a = true → within steps a b = isNaN b

end Steps

/-! ## Patterns -/

section Patterns

variable {f : Interchange} {X : Type} {bits : X → ℕ}

/-- Every pattern of a format is that of something of a type. -/
structure HasPatterns (f : Interchange) (bits : X → ℕ) : Prop where
  exponent : 2 ≤ f.exponentBits
  onto : ∀ n < 2 * f.signWeight, ∃ a, bits a = n

namespace HasPatterns

variable (h : HasPatterns f bits) {a b : X}

include h

/-- There is a number at every place. -/
theorem exists_place {place : ℤ} (hplace : place ∈ f.places) :
    ∃ a, f.isNaN (bits a) = false ∧ f.orderKey (bits a) = place := by
  obtain ⟨a, ha⟩ := h.onto (f.ofPlace place) (withSign_lt (natAbs_lt_of_mem_places hplace) _)
  exact ⟨a, ha ▸ isNaN_ofPlace hplace, ha ▸ orderKey_ofPlace hplace⟩

/-- The separating values are those at the places that separate the order keys. -/
theorem separating_eq (ha : f.isNaN (bits a) = false) (hb : f.isNaN (bits b) = false) :
    separating (fun x => f.isNaN (bits x)) (fun x => f.value (bits x)) a b =
      f.valueAt '' Set.Ioc (min (f.orderKey (bits a)) (f.orderKey (bits b)))
        (max (f.orderKey (bits a)) (f.orderKey (bits b))) := by
  have hmono := valueAt_strictMonoOn h.exponent
  have hplace := orderKey_mem_places ha
  have hplace' := orderKey_mem_places hb
  have hmin : min (f.orderKey (bits a)) (f.orderKey (bits b)) ∈ f.places :=
    min_rec' (· ∈ f.places) hplace hplace'
  have hmax : max (f.orderKey (bits a)) (f.orderKey (bits b)) ∈ f.places :=
    max_rec' (· ∈ f.places) hplace hplace'
  unfold separating
  simp only [value_eq h.exponent, ← hmono.monotoneOn.map_min hplace hplace',
    ← hmono.monotoneOn.map_max hplace hplace']
  ext v
  constructor
  -- Values are compared as their places, and every place between two has a number.
  · rintro ⟨⟨c, hc, rfl⟩, hlow, hhigh⟩
    have hplace'' := orderKey_mem_places hc
    exact ⟨_, ⟨(hmono.lt_iff_lt hmin hplace'').mp hlow,
      (hmono.le_iff_le hplace'' hmax).mp hhigh⟩, rfl⟩
  · rintro ⟨place, ⟨hlow, hhigh⟩, rfl⟩
    have hmem : place ∈ f.places := ⟨hmin.1.trans hlow.le, hhigh.trans hmax.2⟩
    obtain ⟨c, hc, rfl⟩ := h.exists_place hmem
    exact ⟨⟨c, hc, rfl⟩, (hmono.lt_iff_lt hmin hmem).mpr hlow,
      (hmono.le_iff_le hmem hmax).mpr hhigh⟩

/-- The steps between numbers are the difference of their order keys. -/
theorem stepsBetween_eq (ha : f.isNaN (bits a) = false) (hb : f.isNaN (bits b) = false) :
    stepsBetween (fun x => f.isNaN (bits x)) (fun x => f.value (bits x)) a b =
      (f.orderKey (bits a) - f.orderKey (bits b)).natAbs := by
  have hplace := orderKey_mem_places ha
  have hplace' := orderKey_mem_places hb
  -- Different places have different values, so it is enough to count the places.
  have hinj : Set.InjOn f.valueAt (Set.Ioc (min (f.orderKey (bits a)) (f.orderKey (bits b)))
      (max (f.orderKey (bits a)) (f.orderKey (bits b)))) := by
    refine (valueAt_strictMonoOn h.exponent).injOn.mono ?_
    rintro place ⟨hlow, hhigh⟩
    exact ⟨(le_min hplace.1 hplace'.1).trans hlow.le, hhigh.trans (max_le hplace.2 hplace'.2)⟩
  rw [stepsBetween, h.separating_eq ha hb, hinj.encard_image, ← Finset.coe_Ioc,
    Set.encard_coe_eq_coe_finsetCard, Int.card_Ioc]
  congr 1
  omega

end HasPatterns

/-- Whether numbers are near each other by their order keys. -/
def Floating.Interchange.near (f : Interchange) (steps : UInt32) (got expected : ℕ) : Bool :=
  if f.isNaN got || f.isNaN expected then f.isNaN got && f.isNaN expected
  else (f.orderKey got - f.orderKey expected).natAbs ≤ steps.toNat

/-- Numbers are near if the difference of their order keys is small. -/
theorem near_iff {steps : UInt32} {m n : ℕ} (hm : f.isNaN m = false) (hn : f.isNaN n = false) :
    f.near steps m n = true ↔ (f.orderKey m - f.orderKey n).natAbs ≤ steps.toNat := by
  simp [near, hm, hn]

/-- What is not a number is near what is not a number. -/
theorem near_nan {steps : UInt32} {m n : ℕ} (hm : f.isNaN m = true) :
    f.near steps m n = f.isNaN n := by
  simp [near, hm]

/-- Which of two patterns was expected does not matter. -/
theorem near_comm (steps : UInt32) (m n : ℕ) : f.near steps m n = f.near steps n m := by
  unfold near
  rw [Bool.or_comm, Bool.and_comm, ← Int.natAbs_neg, neg_sub]

/-- Every pattern is near itself. -/
theorem near_self (steps : UInt32) (m : ℕ) : f.near steps m m = true := by
  simp [near]

/-- What is near within some steps is near within more. -/
theorem near_mono {steps more : UInt32} {m n : ℕ} (hle : steps ≤ more)
    (h : f.near steps m n = true) : f.near more m n = true := by
  have hle' := UInt32.le_iff_toNat_le.mp hle
  unfold near at *
  -- The tolerance matters for numbers only.
  split
  · rename_i hnan
    rwa [if_pos hnan] at h
  · rename_i hnan
    rw [if_neg hnan] at h
    exact decide_eq_true (le_trans (of_decide_eq_true h) hle')

/-- Patterns that are compared by their order keys count steps. -/
theorem HasPatterns.countsSteps (h : HasPatterns f bits) {lowest highest : X}
    (hlowest : bits lowest = f.ofPlace (-f.infinity))
    (hhighest : bits highest = f.ofPlace f.infinity) :
    CountsSteps (fun x => f.isNaN (bits x)) (fun x => f.value (bits x))
      (fun x => f.orderKey (bits x)) lowest highest
      (fun steps a b => f.near steps (bits a) (bits b)) where
  value_lowest := by
    rw [hlowest, value_eq h.exponent, orderKey_ofPlace f.lowest_mem_places]
    exact ⟨isNaN_ofPlace f.lowest_mem_places, valueAt_lowest h.exponent⟩
  value_highest := by
    rw [hhighest, value_eq h.exponent, orderKey_ofPlace f.highest_mem_places]
    exact ⟨isNaN_ofPlace f.highest_mem_places, f.valueAt_highest⟩
  -- Values ascend with their places, so comparing keys is comparing values.
  key_le_iff a b ha hb := by
    rw [value_eq h.exponent, value_eq h.exponent, (valueAt_strictMonoOn h.exponent).le_iff_le
      (orderKey_mem_places ha) (orderKey_mem_places hb)]
  key_eq_iff a b ha hb := by
    rw [value_eq h.exponent, value_eq h.exponent, (valueAt_strictMonoOn h.exponent).eq_iff_eq
      (orderKey_mem_places ha) (orderKey_mem_places hb)]
  -- Every place between the ends is a pattern's, and no pattern lies beyond them.
  onto place := by
    rw [hlowest, hhighest, orderKey_ofPlace f.lowest_mem_places,
      orderKey_ofPlace f.highest_mem_places]
    constructor
    · rintro ⟨a, ha, rfl⟩
      exact orderKey_mem_places ha
    · exact h.exists_place
  within_iff steps a b ha hb := by
    rw [near_iff ha hb, h.stepsBetween_eq ha hb, Nat.cast_le]
  symm steps a b := near_comm steps _ _
  refl steps a := near_self steps _
  mono steps more a b := near_mono
  nan steps a b := near_nan

end Patterns

/-! ## Words -/

section Words

variable {w : ℕ}

/-- The order key of a word, in words of twice the width: the words with the sign bit are turned
    around at the smallest integer of the width. -/
def wordKey (word : BitVec w) : BitVec (w + w) :=
  if word.slt 0#w then (BitVec.intMin w).signExtend (w + w) - word.signExtend (w + w)
  else word.signExtend (w + w)

/-- Numbers are compared in words of twice the width, where no subtraction overflows, and neither
    does the absolute value of the difference. -/
structure ComputesInWords {X : Type} (word : X → BitVec w) (isNaN : X → Bool) (key : X → ℤ)
    (within : UInt32 → X → X → Bool) : Prop where
  turn : ∀ a,
    ((BitVec.intMin w).signExtend (w + w)).ssubOverflow ((word a).signExtend (w + w)) = false
  key_eq : ∀ a, (wordKey (word a)).toInt = key a
  difference : ∀ a b, (wordKey (word a)).ssubOverflow (wordKey (word b)) = false
  abs : ∀ a b, wordKey (word a) - wordKey (word b) ≠ BitVec.intMin (w + w)
  within_eq : ∀ steps a b, isNaN a = false → isNaN b = false → within steps a b =
    (wordKey (word a) - wordKey (word b)).abs.sle (steps.toBitVec.setWidth (w + w))

/-- Twice the integers of a width are not more than those of twice the width. -/
theorem two_mul_half_le (hw : 0 < w) : 2 * (2 : ℤ) ^ (w - 1) ≤ 2 ^ (w + w - 1) := by
  rw [← pow_succ']
  exact pow_le_pow_right₀ (by norm_num) (by omega)

/-- A difference that fits does not overflow. -/
theorem not_ssubOverflow {v : ℕ} {x y : BitVec v} (hlow : -2 ^ (v - 1) ≤ x.toInt - y.toInt)
    (hhigh : x.toInt - y.toInt < 2 ^ (v - 1)) : x.ssubOverflow y = false := by
  simp only [BitVec.ssubOverflow, Bool.or_eq_false_iff, decide_eq_false_iff_not]
  omega

/-- In twice the width, a word can be turned around. -/
theorem turn_no_overflow (hw : 0 < w) (word : BitVec w) :
    ((BitVec.intMin w).signExtend (w + w)).ssubOverflow (word.signExtend (w + w)) = false := by
  have hhalf := two_mul_half_le hw
  have hpos : (0 : ℤ) < 2 ^ (w - 1) := by positivity
  have hlow := word.le_toInt
  have hhigh := word.toInt_lt
  apply not_ssubOverflow <;>
    rw [BitVec.toInt_signExtend_of_le (by omega), BitVec.toInt_signExtend_of_le (by omega),
      BitVec.toInt_intMin_of_pos hw] <;> omega

/-- The order key as an integer. -/
theorem toInt_wordKey (hw : 0 < w) (word : BitVec w) : (wordKey word).toInt =
    if word.toInt < 0 then -2 ^ (w - 1) - word.toInt else word.toInt := by
  have hextend (x : BitVec w) : (x.signExtend (w + w)).toInt = x.toInt :=
    BitVec.toInt_signExtend_of_le (by omega)
  have hturn := turn_no_overflow hw word
  simp only [wordKey, BitVec.slt_iff_toInt_lt, BitVec.toInt_zero]
  split
  · rw [BitVec.toInt_sub_of_not_ssubOverflow (by simp [hturn]), hextend, hextend,
      BitVec.toInt_intMin_of_pos hw]
  · exact hextend word

/-- The order key that is computed is that of the pattern: turning a word around at the smallest
    integer takes the sign bit away and changes the sign. -/
theorem toInt_wordKey_eq_orderKey {f : Interchange} (hw : 0 < w)
    (hwidth : f.signWeight = 2 ^ (w - 1)) (word : BitVec w) :
    (wordKey word).toInt = f.orderKey word.toNat := by
  have hlt := word.isLt
  have hdouble : 2 ^ w = 2 * 2 ^ (w - 1) := by
    rw [← pow_succ', Nat.sub_add_cancel hw]
  rw [toInt_wordKey hw, orderKey, isNegative, magnitude, hwidth, BitVec.toInt_eq_msb_cond,
    BitVec.msb_eq_decide]
  simp only [decide_eq_true_eq]
  by_cases hneg : 2 ^ (w - 1) ≤ word.toNat
  · -- As an integer the word is `2 ^ w` less, and its magnitude is what it has above the sign bit.
    have hmod : word.toNat % 2 ^ (w - 1) = word.toNat - 2 ^ (w - 1) := by
      rw [Nat.mod_eq_sub_mod hneg, Nat.mod_eq_of_lt (by omega)]
    rw [if_pos hneg, if_pos (by omega), if_pos hneg, hmod, hdouble]
    push_cast [hneg]
    omega
  · rw [if_neg hneg, if_neg (by omega), if_neg hneg, Nat.mod_eq_of_lt (by omega)]

/-- An order key takes no more bits than the word. -/
theorem abs_wordKey_lt (hw : 0 < w) (word : BitVec w) : |(wordKey word).toInt| < 2 ^ (w - 1) := by
  have hlow := word.le_toInt
  have hhigh := word.toInt_lt
  rw [toInt_wordKey hw, abs_lt]
  split <;> omega

/-- In twice the width, the difference of order keys fits. -/
theorem abs_difference_lt (hw : 0 < w) (a b : BitVec w) :
    |(wordKey a).toInt - (wordKey b).toInt| < 2 ^ (w + w - 1) := by
  have hhalf := two_mul_half_le hw
  have ha := abs_lt.mp (abs_wordKey_lt hw a)
  have hb := abs_lt.mp (abs_wordKey_lt hw b)
  rw [abs_lt]
  omega

theorem difference_no_overflow (hw : 0 < w) (a b : BitVec w) :
    (wordKey a).ssubOverflow (wordKey b) = false := by
  obtain ⟨hlow, hhigh⟩ := abs_lt.mp (abs_difference_lt hw a b)
  exact not_ssubOverflow hlow.le hhigh

/-- The difference is that of the integers. -/
theorem toInt_difference (hw : 0 < w) (a b : BitVec w) :
    (wordKey a - wordKey b).toInt = (wordKey a).toInt - (wordKey b).toInt :=
  BitVec.toInt_sub_of_not_ssubOverflow (by simp [difference_no_overflow hw])

/-- A difference of order keys has an absolute value, which the smallest integer has not. -/
theorem difference_ne_intMin (hw : 0 < w) (a b : BitVec w) :
    wordKey a - wordKey b ≠ BitVec.intMin (w + w) := by
  obtain ⟨hlow, -⟩ := abs_lt.mp (abs_difference_lt hw a b)
  intro hmin
  rw [← toInt_difference hw, hmin, BitVec.toInt_intMin_of_pos (by omega)] at hlow
  exact lt_irrefl _ hlow

/-- A number of steps is no negative integer of 64 bits or more. -/
theorem toInt_steps (hw : 32 ≤ w) (steps : UInt32) :
    (steps.toBitVec.setWidth (w + w)).toInt = steps.toNat := by
  have hsteps : steps.toNat < 2 ^ 32 := steps.toNat_lt
  have hpow : 2 ^ 33 ≤ 2 ^ (w + w) := Nat.pow_le_pow_right (by norm_num) (by omega)
  have hnat : (steps.toBitVec.setWidth (w + w)).toNat = steps.toNat := by
    rw [BitVec.toNat_setWidth, UInt32.toNat_toBitVec, Nat.mod_eq_of_lt (by omega)]
  rw [BitVec.toInt_eq_toNat_of_lt (by omega), hnat]

/-- Patterns are compared in words of twice their width. -/
theorem computesInWords {f : Interchange} {X : Type} {word : X → BitVec w} (hw : 32 ≤ w)
    (hwidth : f.signWeight = 2 ^ (w - 1)) :
    ComputesInWords word (fun x => f.isNaN (word x).toNat) (fun x => f.orderKey (word x).toNat)
      (fun steps a b => f.near steps (word a).toNat (word b).toNat) where
  turn a := turn_no_overflow (by omega) (word a)
  key_eq a := toInt_wordKey_eq_orderKey (by omega) hwidth (word a)
  difference a b := difference_no_overflow (by omega) (word a) (word b)
  abs a b := difference_ne_intMin (by omega) (word a) (word b)
  within_eq steps a b ha hb := by
    have hpos : 0 < w := by omega
    rw [Bool.eq_iff_iff, near_iff ha hb, BitVec.sle_iff_toInt_le, toInt_steps hw,
      BitVec.toInt_abs_eq_natAbs_of_ne_intMin (difference_ne_intMin hpos _ _),
      toInt_difference hpos, toInt_wordKey_eq_orderKey hpos hwidth,
      toInt_wordKey_eq_orderKey hpos hwidth, Nat.cast_le]

end Words

/-! ## Both widths -/

/-- The exact value of a number. -/
def Single.value (x : Single) : Extended := single.value x.bits.toNat

/-- The exact value of a number. -/
def Double.value (x : Double) : Extended := double.value x.bits.toNat

/-- Every word is the pattern of a single. -/
theorem Single.hasPatterns : HasPatterns single (fun x : Single => x.bits.toNat) where
  exponent := by decide
  onto n hn := ⟨⟨UInt32.ofNat n⟩, UInt32.toNat_ofNat_of_lt' hn⟩

/-- Every long word is the pattern of a double. -/
theorem Double.hasPatterns : HasPatterns double (fun x : Double => x.bits.toNat) where
  exponent := by decide
  onto n hn := ⟨⟨UInt64.ofNat n⟩, UInt64.toNat_ofNat_of_lt' hn⟩

/-- Numbers of both widths are compared by the representable steps that separate them, and their
    comparison in words of twice the width does not overflow. -/
theorem within_countsSteps :
    CountsSteps Single.isNaN Single.value Single.orderKey ⟨0xff800000⟩ ⟨0x7f800000⟩ Single.within ∧
    ComputesInWords (fun x => x.bits.toBitVec) Single.isNaN Single.orderKey Single.within ∧
    CountsSteps Double.isNaN Double.value Double.orderKey ⟨0xfff0000000000000⟩
      ⟨0x7ff0000000000000⟩ Double.within ∧
    ComputesInWords (fun x => x.bits.toBitVec) Double.isNaN Double.orderKey Double.within := by
  refine ⟨Single.hasPatterns.countsSteps ?_ ?_, computesInWords ?_ ?_,
    Double.hasPatterns.countsSteps ?_ ?_, computesInWords ?_ ?_⟩
  all_goals decide

end ShaderConformance
