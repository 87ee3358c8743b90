import Mathlib
import ShaderConformance.Floating.Number

/-!
# Exact values of patterns

What a pattern stands for is a rational number, or an infinity.  The order keys of numbers lie on
a line of integers between those of the infinities, and the values on that line are strictly
increasing.

## Main definitions

- `Interchange.value`: the exact value of a pattern, by its sign, exponent and fraction
- `Interchange.valueAt`: the value at a place of the line

## Main statements

- `Interchange.units_strictMono`: magnitudes are ordered as their patterns
- `Interchange.rational_eq`: a magnitude is its units, divided by a power of two
- `Interchange.value_eq`: the value of a pattern is that at its order key
- `Interchange.valueAt_strictMonoOn`: the values between the infinities are strictly increasing
-/

namespace ShaderConformance.Floating.Interchange

variable (f : Interchange)

/-! ## Units -/

/-- A magnitude is below the end of its exponent. -/
theorem units_lt (m : ℕ) : f.units m < 2 ^ f.fractionBits * 2 ^ (m / 2 ^ f.fractionBits) := by
  have hfraction : m % 2 ^ f.fractionBits < 2 ^ f.fractionBits := Nat.mod_lt m (by positivity)
  unfold units
  simp only [Nat.pow_eq]
  split
  · rename_i hexponent
    rw [hexponent, pow_zero, mul_one]
    exact hfraction
  · rename_i hexponent
    obtain ⟨e, he⟩ := Nat.exists_eq_succ_of_ne_zero hexponent
    rw [he, Nat.succ_sub_one, pow_succ', ← mul_assoc]
    gcongr
    omega

/-- A magnitude with a leading one is not below the start of its exponent. -/
theorem le_units {m : ℕ} (hexponent : m / 2 ^ f.fractionBits ≠ 0) :
    2 ^ f.fractionBits * 2 ^ (m / 2 ^ f.fractionBits - 1) ≤ f.units m := by
  unfold units
  simp only [Nat.pow_eq, hexponent, if_false]
  gcongr
  omega

/-- Magnitudes are ordered as their patterns. -/
theorem units_strictMono : StrictMono f.units := by
  intro m m' h
  have hle : m / 2 ^ f.fractionBits ≤ m' / 2 ^ f.fractionBits := Nat.div_le_div_right h.le
  obtain hlt | heq := hle.lt_or_eq
  · -- A larger exponent begins where the smaller one ends.
    calc f.units m
      _ < 2 ^ f.fractionBits * 2 ^ (m / 2 ^ f.fractionBits) := f.units_lt m
      _ ≤ 2 ^ f.fractionBits * 2 ^ (m' / 2 ^ f.fractionBits - 1) := by
        gcongr
        · norm_num
        · omega
      _ ≤ f.units m' := f.le_units (Nat.ne_zero_of_lt hlt)
  · -- Within an exponent the fraction decides.
    have hfraction : m % 2 ^ f.fractionBits < m' % 2 ^ f.fractionBits := by
      rw [← Nat.div_add_mod m (2 ^ f.fractionBits), ← Nat.div_add_mod m' (2 ^ f.fractionBits),
        heq] at h
      exact Nat.lt_of_add_lt_add_left h
    unfold units
    simp only [Nat.pow_eq, heq]
    split
    · exact hfraction
    · gcongr

/-! ## Values -/

/-- The exponent field of the numbers from one to two. -/
def bias : ℕ := 2 ^ (f.exponentBits - 1) - 1

/-- The number that a magnitude pattern stands for by its fields.  A number of the lowest exponent
    field has no leading one. -/
def rational (magnitude : ℕ) : ℚ :=
  let exponent := magnitude / 2 ^ f.fractionBits
  let fraction : ℚ := (magnitude % 2 ^ f.fractionBits : ℕ) / 2 ^ f.fractionBits
  if exponent = 0 then fraction * 2 ^ (1 - f.bias : ℤ)
  else (1 + fraction) * 2 ^ (exponent - f.bias : ℤ)

/-- Rational numbers, between two infinities. -/
abbrev Extended := WithBot (WithTop ℚ)

/-- The exact value of a pattern.  Of a pattern that is not a number it says nothing. -/
def value (bits : ℕ) : Extended :=
  let magnitude := f.magnitude bits
  if magnitude < f.infinity then
    ((if f.isNegative bits then -f.rational magnitude else f.rational magnitude : ℚ) : WithTop ℚ)
  else if f.isNegative bits then ⊥ else ⊤

variable {f}

/-- The scale of units follows from the bias and the width of the fraction. -/
theorem unitScale_add_one (hexponent : 2 ≤ f.exponentBits) :
    f.unitScale + 1 = f.bias + f.fractionBits := by
  have hpow : 2 ^ 1 ≤ 2 ^ (f.exponentBits - 1) := Nat.pow_le_pow_right (by norm_num) (by omega)
  unfold unitScale bias
  simp only [Nat.pow_eq]
  omega

/-- A power of two that the fields ask for, in units. -/
theorem scaled_eq (hexponent : 2 ≤ f.exponentBits) (a : ℚ) (e : ℕ) :
    a / 2 ^ f.fractionBits * 2 ^ ((e + 1 : ℕ) - f.bias : ℤ) = a * 2 ^ e / 2 ^ f.unitScale := by
  have htwo : (2 : ℚ) ≠ 0 := two_ne_zero
  have hscale : (2 : ℚ) ^ f.unitScale * 2 = 2 ^ f.fractionBits * 2 ^ f.bias := by
    rw [← pow_succ, unitScale_add_one hexponent, pow_add, mul_comm]
  calc a / 2 ^ f.fractionBits * 2 ^ ((e + 1 : ℕ) - f.bias : ℤ)
    _ = a / 2 ^ f.fractionBits * (2 ^ (e + 1) / 2 ^ f.bias) := by
      rw [zpow_sub₀ htwo, zpow_natCast, zpow_natCast]
    _ = a * 2 ^ e * 2 / (2 ^ f.unitScale * 2) := by
      rw [div_mul_div_comm, hscale, pow_succ, mul_assoc]
    _ = a * 2 ^ e / 2 ^ f.unitScale := mul_div_mul_right _ _ htwo

/-- A magnitude is its units, divided by a power of two. -/
theorem rational_eq (hexponent : 2 ≤ f.exponentBits) (m : ℕ) :
    f.rational m = f.units m / 2 ^ f.unitScale := by
  unfold rational units
  simp only [Nat.pow_eq]
  split
  -- The lowest exponent field stands for the same power of two as the next one.
  · simpa using scaled_eq hexponent (m % 2 ^ f.fractionBits : ℕ) 0
  · rename_i hfield
    obtain ⟨e, he⟩ := Nat.exists_eq_succ_of_ne_zero hfield
    rw [he, one_add_div (by positivity), scaled_eq hexponent, Nat.succ_sub_one]
    push_cast
    rfl

/-- Exact values are ordered as their patterns. -/
theorem rational_strictMono (hexponent : 2 ≤ f.exponentBits) : StrictMono f.rational := by
  intro m m' h
  have hunits : (f.units m : ℚ) < f.units m' := Nat.cast_lt.mpr (f.units_strictMono h)
  rw [rational_eq hexponent, rational_eq hexponent]
  gcongr

/-! ## The line of numbers -/

/-- The number at a place: its magnitude is that of the place, and so is its sign. -/
def signed (f : Interchange) (place : ℤ) : ℚ := place.sign * f.rational place.natAbs

/-- The value at a place between the infinities. -/
def valueAt (f : Interchange) (place : ℤ) : Extended :=
  if place.natAbs < f.infinity then (f.signed place : WithTop ℚ)
  else if place < 0 then ⊥ else ⊤

/-- At places that are not negative stand the magnitudes. -/
theorem signed_natCast (m : ℕ) : f.signed m = f.rational m := by
  obtain rfl | hpos := m.eq_zero_or_pos
  · simp [signed, rational]
  · simp [signed, Int.sign_natCast_of_ne_zero hpos.ne']

/-- The line of numbers is symmetric. -/
theorem signed_neg (place : ℤ) : f.signed (-place) = -f.signed place := by
  simp [signed]

/-- Infinity is no zero. -/
theorem infinity_pos (hexponent : 2 ≤ f.exponentBits) : 0 < f.infinity := by
  have hpow : 2 ^ 2 ≤ 2 ^ f.exponentBits := Nat.pow_le_pow_right (by norm_num) hexponent
  exact Nat.mul_pos (Nat.sub_pos_of_lt (by simp only [Nat.pow_eq]; omega)) (Nat.two_pow_pos _)

/-- The value of a pattern is that at its order key, where both zeros meet. -/
theorem value_eq (hexponent : 2 ≤ f.exponentBits) (bits : ℕ) :
    f.value bits = f.valueAt (f.orderKey bits) := by
  have hinfinity := infinity_pos hexponent
  unfold value valueAt orderKey
  cases f.isNegative bits with
  | true =>
    simp only [if_true, Int.natAbs_neg, Int.natAbs_natCast, signed_neg, signed_natCast]
    split
    · rfl
    · rw [if_pos (by omega)]
  | false =>
    simp only [Bool.false_eq_true, if_false, Int.natAbs_natCast, signed_natCast]
    split
    · rfl
    · rw [if_neg (by omega)]

/-- Negative zero is where positive zero is. -/
example : single.orderKey 0x80000000 = single.orderKey 0 := by decide

/-- The numbers of the line are ordered as their places. -/
theorem signed_strictMono (hexponent : 2 ≤ f.exponentBits) : StrictMono f.signed := by
  refine strictMono_of_odd_strictMonoOn_nonneg signed_neg fun i hi j hj h => ?_
  obtain ⟨m, rfl⟩ := Int.eq_ofNat_of_zero_le hi
  obtain ⟨m', rfl⟩ := Int.eq_ofNat_of_zero_le hj
  rw [signed_natCast, signed_natCast]
  exact rational_strictMono hexponent (Int.ofNat_lt.mp h)

/-- The places of numbers, from one infinity to the other. -/
def places (f : Interchange) : Set ℤ := Set.Icc (-f.infinity) f.infinity

/-- The line begins at the lowest place. -/
theorem lowest_mem_places (f : Interchange) : -(f.infinity : ℤ) ∈ f.places :=
  Set.left_mem_Icc.mpr (by omega)

/-- The line ends at the highest place. -/
theorem highest_mem_places (f : Interchange) : (f.infinity : ℤ) ∈ f.places :=
  Set.right_mem_Icc.mpr (by omega)

/-- At its start is the negative infinity. -/
theorem valueAt_lowest (hexponent : 2 ≤ f.exponentBits) : f.valueAt (-f.infinity) = ⊥ := by
  have hinfinity := infinity_pos hexponent
  simp [valueAt, hinfinity]

/-- At its end is the positive infinity. -/
theorem valueAt_highest (f : Interchange) : f.valueAt f.infinity = ⊤ := by
  simp [valueAt]

/-- From one infinity to the other, values are ordered as their places. -/
theorem valueAt_strictMonoOn (hexponent : 2 ≤ f.exponentBits) :
    StrictMonoOn f.valueAt f.places := by
  intro i hi j hj h
  obtain ⟨hlow, hhigh⟩ := hi
  obtain ⟨hlow', hhigh'⟩ := hj
  unfold valueAt
  -- A place that is not finite is the end of the line on its side.
  by_cases hfinite : i.natAbs < f.infinity
  · by_cases hfinite' : j.natAbs < f.infinity
    · rw [if_pos hfinite, if_pos hfinite']
      exact WithBot.coe_lt_coe.mpr (WithTop.coe_lt_coe.mpr (signed_strictMono hexponent h))
    · rw [if_pos hfinite, if_neg hfinite', if_neg (by omega)]
      exact WithBot.coe_lt_coe.mpr (WithTop.coe_lt_top _)
  · rw [if_neg hfinite, if_pos (by omega)]
    split
    · exact WithBot.bot_lt_coe _
    · rw [if_neg (by omega)]
      exact bot_lt_top

/-! ## Patterns of numbers -/

/-- The order key of a pattern that is a number lies between the infinities. -/
theorem orderKey_mem_places {bits : ℕ} (h : f.isNaN bits = false) : f.orderKey bits ∈ f.places := by
  have hmagnitude : f.magnitude bits ≤ f.infinity := by
    simpa [isNaN] using h
  unfold orderKey places
  rw [Set.mem_Icc]
  split <;> omega

/-- Infinity is a magnitude. -/
theorem infinity_lt (f : Interchange) : f.infinity < f.signWeight := by
  have hpow : 0 < 2 ^ f.exponentBits := by positivity
  unfold infinity signWeight
  simp only [Nat.pow_eq]
  rw [pow_add, mul_comm]
  exact Nat.mul_lt_mul_of_pos_left (Nat.sub_one_lt hpow.ne') (by positivity)

/-- A sign leaves the magnitude as it is. -/
theorem magnitude_withSign {m : ℕ} (hm : m < f.signWeight) (negative : Bool) :
    f.magnitude (f.withSign negative m) = m := by
  unfold magnitude withSign
  split
  · rw [Nat.add_mod_left, Nat.mod_eq_of_lt hm]
  · exact Nat.mod_eq_of_lt hm

/-- A pattern has the sign that it was given. -/
theorem isNegative_withSign {m : ℕ} (hm : m < f.signWeight) (negative : Bool) :
    f.isNegative (f.withSign negative m) = negative := by
  unfold isNegative withSign
  cases negative with
  | true => simp
  | false => simpa using hm

/-- A pattern with a sign is one bit wider. -/
theorem withSign_lt {m : ℕ} (hm : m < f.signWeight) (negative : Bool) :
    f.withSign negative m < 2 * f.signWeight := by
  unfold withSign
  split <;> omega

/-- The pattern of a number at a place. -/
def ofPlace (f : Interchange) (place : ℤ) : ℕ := f.withSign (place < 0) place.natAbs

variable {place : ℤ}

/-- A place is that of a magnitude. -/
theorem natAbs_lt_of_mem_places (h : place ∈ f.places) : place.natAbs < f.signWeight := by
  obtain ⟨hlow, hhigh⟩ := h
  have hinfinity := f.infinity_lt
  omega

/-- At a place stands a number. -/
theorem isNaN_ofPlace (h : place ∈ f.places) : f.isNaN (f.ofPlace place) = false := by
  rw [ofPlace, isNaN, magnitude_withSign (natAbs_lt_of_mem_places h), decide_eq_false_iff_not]
  obtain ⟨hlow, hhigh⟩ := h
  omega

/-- The order key of what stands at a place is that place. -/
theorem orderKey_ofPlace (h : place ∈ f.places) : f.orderKey (f.ofPlace place) = place := by
  have hlt := natAbs_lt_of_mem_places h
  rw [ofPlace, orderKey, isNegative_withSign hlt, magnitude_withSign hlt]
  simp only [decide_eq_true_eq]
  split <;> omega

end ShaderConformance.Floating.Interchange
