import ShaderConformance.Floating.Decimal
import ShaderConformance.Proofs.ExactValues

/-!
# Nearest numbers

A value is rounded to the number nearest to it, and a tie goes to the even pattern.

## Main definitions

- `Interchange.RoundsIn`: a value is rounded to a significand of a binade
- `Interchange.IsNearest`: the pattern of the magnitude nearest to a value

## Main statements

- `roundHalfEven_error`: a quotient is rounded by half a unit at most
- `Interchange.isNearest_magnitudeOfRatio`: a quotient is rounded to the nearest magnitude
- `Interchange.isNearest_magnitudeOfWritten`: a decimal is rounded to the nearest magnitude
- `Interchange.IsNearest.unique`: there is one such pattern only
-/

namespace ShaderConformance.Floating

/-! ## Whole numbers -/

/-- A quotient is rounded by half a unit at most, and by half a unit to an even number. -/
theorem roundHalfEven_error (n : ℕ) {d : ℕ} (hd : 0 < d) :
    2 * |(roundHalfEven n d : ℚ) - n / d| ≤ 1 ∧
      (2 * |(roundHalfEven n d : ℚ) - n / d| = 1 → roundHalfEven n d % 2 = 0) := by
  have hpos : (0 : ℚ) < d := Nat.cast_pos.mpr hd
  -- What is cut off by the division is a fraction below one.
  obtain ⟨t, ht⟩ : ∃ t : ℚ, t = (n % d : ℕ) / d := ⟨_, rfl⟩
  have hsplit : (n : ℚ) / d = (n / d : ℕ) + t := by
    rw [ht, div_eq_iff hpos.ne', add_mul, div_mul_cancel₀ _ hpos.ne']
    exact_mod_cast (Nat.div_add_mod' n d).symm
  have hnonneg : 0 ≤ t := ht ▸ by positivity
  have hone : t < 1 := by
    rw [ht, div_lt_one hpos]
    exact_mod_cast Nat.mod_lt n hd
  have hlow : 2 * (n % d) < d ↔ 2 * t < 1 := by
    rw [ht, ← mul_div_assoc, div_lt_one hpos]
    exact_mod_cast Iff.rfl
  have hhigh : d < 2 * (n % d) ↔ 1 < 2 * t := by
    rw [ht, ← mul_div_assoc, one_lt_div hpos]
    exact_mod_cast Iff.rfl
  unfold roundHalfEven
  dsimp only
  rw [hsplit]
  split
  · rename_i hlt
    rw [hlow] at hlt
    rw [sub_add_cancel_left, abs_neg, abs_of_nonneg hnonneg]
    exact ⟨hlt.le, fun h => absurd h hlt.ne⟩
  · rename_i hle
    split
    · rename_i hlt
      rw [hhigh] at hlt
      rw [Nat.cast_succ, add_sub_add_left_eq_sub, abs_of_nonneg (by linarith)]
      exact ⟨by linarith, fun h => by linarith⟩
    · rename_i hge
      have hhalf : 2 * t = 1 :=
        le_antisymm (not_lt.mp (hhigh.not.mp hge)) (not_lt.mp (hlow.not.mp hle))
      refine ⟨le_of_eq ?_, fun _ => by omega⟩
      obtain heven | hodd := Nat.mod_two_eq_zero_or_one (n / d)
      · rw [heven, Nat.add_zero, sub_add_cancel_left, abs_neg, abs_of_nonneg hnonneg, hhalf]
      · rw [hodd, Nat.cast_succ, add_sub_add_left_eq_sub, abs_of_nonneg (by linarith)]
        linarith

/-- No whole number is nearer to a value than one that is half a unit from it at most. -/
theorem abs_sub_le_of_error {r k : ℕ} {q : ℚ} (h : 2 * |(r : ℚ) - q| ≤ 1) :
    |(r : ℚ) - q| ≤ |(k : ℚ) - q| ∧
      (k ≠ r → |(r : ℚ) - q| = |(k : ℚ) - q| → 2 * |(r : ℚ) - q| = 1) := by
  obtain rfl | hne := eq_or_ne k r
  · exact ⟨le_rfl, fun hne => absurd rfl hne⟩
  · have hapart : (1 : ℚ) ≤ |(k : ℚ) - r| := by
      have hint : (1 : ℤ) ≤ |(k : ℤ) - r| :=
        Int.one_le_abs (sub_ne_zero.mpr (by exact_mod_cast hne))
      exact_mod_cast hint
    have htriangle : |(k : ℚ) - r| ≤ |(k : ℚ) - q| + |(r : ℚ) - q| := by
      have := abs_sub_le (k : ℚ) q r
      rwa [abs_sub_comm q] at this
    exact ⟨by linarith, fun _ heq => by linarith⟩

namespace Interchange

variable {f : Interchange}

/-! ## Magnitudes -/

/-- A significand of a binade, in units.  It may be the first one of the next binade. -/
theorem units_significand {binade s : ℕ} (hs : s ≤ 2 ^ (f.fractionBits + 1))
    (hnormal : binade = 0 ∨ 2 ^ f.fractionBits ≤ s) :
    f.units (binade * 2 ^ f.fractionBits + s) = s * 2 ^ binade := by
  have hlead : 0 < 2 ^ f.fractionBits := Nat.two_pow_pos _
  have hquotient : s / 2 ^ f.fractionBits ≤ 2 := by
    rw [pow_succ'] at hs
    exact Nat.div_le_of_le_mul (by omega)
  have hsplit := Nat.div_add_mod s (2 ^ f.fractionBits)
  have hzero : s / 2 ^ f.fractionBits = 0 → binade = 0 := by
    intro h
    rw [Nat.div_eq_zero_iff] at h
    omega
  unfold units
  simp only [Nat.pow_eq]
  rw [Nat.add_comm, Nat.add_mul_div_right _ _ hlead, Nat.add_mul_mod_self_right]
  rw [pow_succ'] at hs
  -- The significand is below the binade, in it, or at its end.
  generalize 2 ^ f.fractionBits = lead at *
  interval_cases hfield : s / lead
  · rw [hzero rfl, if_pos rfl]
    omega
  · rw [if_neg (by omega), Nat.add_sub_cancel_left]
    congr 1
    omega
  · have hmod : s % lead = 0 := by omega
    have hexponent : 2 + binade - 1 = binade + 1 := by omega
    rw [if_neg (by omega), hexponent, pow_succ', ← mul_assoc]
    congr 1
    omega

/-- In a binade and above, magnitudes are multiples of its step. -/
theorem two_pow_dvd_units {binade m : ℕ} (h : (binade + 1) * 2 ^ f.fractionBits ≤ m) :
    2 ^ binade ∣ f.units m := by
  have hfield : binade + 1 ≤ m / 2 ^ f.fractionBits :=
    (Nat.le_div_iff_mul_le (Nat.two_pow_pos _)).mpr h
  unfold units
  simp only [Nat.pow_eq]
  rw [if_neg (by omega)]
  exact dvd_mul_of_dvd_right (pow_dvd_pow 2 (by omega)) _

/-- The binade of a quotient: its significand has no more bits than the format has, and no fewer
    unless it is the lowest one. -/
def binade (f : Interchange) (n d : ℕ) : ℕ := (n / d).log2 - f.fractionBits

/-- A quotient has a significand of no more bits than the format, and one. -/
theorem lt_binade (f : Interchange) (n : ℕ) {d : ℕ} (hd : 0 < d) :
    n < 2 ^ (f.fractionBits + 1) * (d * 2 ^ f.binade n d) := by
  have hlog : n / d < 2 ^ ((n / d).log2 + 1) := Nat.lt_log2_self
  have hle : (n / d).log2 + 1 ≤ f.fractionBits + 1 + f.binade n d := by
    unfold binade
    omega
  have hlt : n / d < 2 ^ (f.fractionBits + 1 + f.binade n d) :=
    hlog.trans_le (Nat.pow_le_pow_right (by norm_num) hle)
  rw [Nat.div_lt_iff_lt_mul hd, pow_add] at hlt
  calc n
    _ < 2 ^ (f.fractionBits + 1) * 2 ^ f.binade n d * d := hlt
    _ = 2 ^ (f.fractionBits + 1) * (d * 2 ^ f.binade n d) := by ring

/-- Unless it is in the lowest binade, a quotient has a leading one. -/
theorem binade_le {n d : ℕ} (hd : 0 < d) (h : f.binade n d ≠ 0) :
    2 ^ f.fractionBits * (d * 2 ^ f.binade n d) ≤ n := by
  unfold binade at h ⊢
  have hne : n / d ≠ 0 := by
    intro hzero
    rw [hzero, Nat.log2_zero, Nat.zero_sub] at h
    exact h rfl
  have hlog : 2 ^ (n / d).log2 ≤ n / d := Nat.log2_self_le hne
  have hsplit : (n / d).log2 = f.fractionBits + ((n / d).log2 - f.fractionBits) := by omega
  rw [hsplit, pow_add, Nat.le_div_iff_mul_le hd] at hlog
  calc 2 ^ f.fractionBits * (d * 2 ^ ((n / d).log2 - f.fractionBits))
    _ = 2 ^ f.fractionBits * 2 ^ ((n / d).log2 - f.fractionBits) * d := by ring
    _ ≤ n := hlog

/-- A value is rounded to a significand of a binade.  Both are measured in steps of the binade. -/
structure RoundsIn (f : Interchange) (binade : ℕ) (y : ℚ) (s : ℕ) : Prop where
  lt : y < 2 ^ (f.fractionBits + 1)
  le : binade ≠ 0 → 2 ^ f.fractionBits ≤ y
  error : 2 * |(s : ℚ) - y| ≤ 1
  even : 2 * |(s : ℚ) - y| = 1 → s % 2 = 0

/-- A quotient is rounded in its binade. -/
theorem roundsIn_binade (f : Interchange) (n : ℕ) {d : ℕ} (hd : 0 < d) :
    f.RoundsIn (f.binade n d) (n / (d * 2 ^ f.binade n d))
      (roundHalfEven n (d * 2 ^ f.binade n d)) := by
  have hpos : (0 : ℚ) < d * 2 ^ f.binade n d := by positivity
  have herror := roundHalfEven_error n (d := d * 2 ^ f.binade n d) (by positivity)
  push_cast at herror
  refine ⟨?_, fun hbinade => ?_, herror.1, herror.2⟩
  · rw [div_lt_iff₀ hpos]
    exact_mod_cast f.lt_binade n hd
  · rw [le_div_iff₀ hpos]
    exact_mod_cast binade_le hd hbinade

section RoundsIn

variable {e s : ℕ} {y : ℚ}

/-- A rounded significand is that many steps of its binade. -/
theorem RoundsIn.units_eq (h : f.RoundsIn e y s) :
    f.units (e * 2 ^ f.fractionBits + s) = s * 2 ^ e := by
  obtain ⟨hlow, hhigh⟩ := abs_le.mp (show |(s : ℚ) - y| ≤ 1 / 2 by linarith [h.error])
  apply units_significand
  · have hlt : (s : ℚ) < 2 ^ (f.fractionBits + 1) + 1 := by linarith [h.lt]
    exact Nat.lt_succ_iff.mp (by exact_mod_cast hlt)
  · by_cases he : e = 0
    · exact Or.inl he
    · have hlt : (2 : ℚ) ^ f.fractionBits < s + 1 := by linarith [h.le he]
      exact Or.inr (Nat.lt_succ_iff.mp (by exact_mod_cast hlt))

/-- Distances in units are those in steps of the binade, scaled. -/
theorem abs_mul_two_pow_sub (k e : ℕ) (y : ℚ) :
    |((k * 2 ^ e : ℕ) : ℚ) - y * 2 ^ e| = |(k : ℚ) - y| * 2 ^ e := by
  have hstep : (0 : ℚ) < 2 ^ e := by positivity
  rw [Nat.cast_mul, Nat.cast_pow, Nat.cast_ofNat, ← sub_mul, abs_mul, abs_of_pos hstep]

/-- In the binade and above, magnitudes are multiples of its step. -/
theorem exists_units_eq {m : ℕ} (hm : e = 0 ∨ (e + 1) * 2 ^ f.fractionBits ≤ m) :
    ∃ k, f.units m = k * 2 ^ e := by
  obtain rfl | hm := hm
  · exact ⟨f.units m, (Nat.mul_one _).symm⟩
  · obtain ⟨k, hk⟩ := two_pow_dvd_units hm
    exact ⟨k, hk.trans (Nat.mul_comm _ _)⟩

/-- Below the binade, no magnitude is as near as the first one of the binade. -/
theorem RoundsIn.lt_of_below (h : f.RoundsIn e y s) (he : e ≠ 0) {m : ℕ}
    (hm : m < (e + 1) * 2 ^ f.fractionBits) :
    |(s : ℚ) - y| * 2 ^ e < |(f.units m : ℚ) - y * 2 ^ e| := by
  have hstep : (0 : ℚ) < 2 ^ e := by positivity
  have hbelow : f.units m < 2 ^ f.fractionBits * 2 ^ e := by
    rw [← units_significand (Nat.pow_le_pow_right (by norm_num) (Nat.le_succ _)) (Or.inr le_rfl)]
    exact f.units_strictMono (by rwa [← Nat.succ_mul])
  have hfirst : (f.units m : ℚ) < 2 ^ f.fractionBits * 2 ^ e := by exact_mod_cast hbelow
  have hnear := (abs_sub_le_of_error (k := 2 ^ f.fractionBits) h.error).1
  rw [Nat.cast_pow, Nat.cast_ofNat, abs_of_nonpos (sub_nonpos.mpr (h.le he)), neg_sub] at hnear
  calc |(s : ℚ) - y| * 2 ^ e
    _ ≤ (y - 2 ^ f.fractionBits) * 2 ^ e := mul_le_mul_of_nonneg_right hnear hstep.le
    _ < y * 2 ^ e - f.units m := by linarith
    _ ≤ |(f.units m : ℚ) - y * 2 ^ e| := by
      rw [abs_sub_comm]
      exact le_abs_self _

/-- No magnitude is nearer to a value than the one that it is rounded to, and if another one is as
    near then the pattern is even. -/
theorem RoundsIn.nearest (h : f.RoundsIn e y s) (hfraction : f.fractionBits ≠ 0) (m : ℕ) :
    |(f.units (e * 2 ^ f.fractionBits + s) : ℚ) - y * 2 ^ e| ≤ |(f.units m : ℚ) - y * 2 ^ e| ∧
      (m ≠ e * 2 ^ f.fractionBits + s →
        |(f.units (e * 2 ^ f.fractionBits + s) : ℚ) - y * 2 ^ e| = |(f.units m : ℚ) - y * 2 ^ e| →
          (e * 2 ^ f.fractionBits + s) % 2 = 0) := by
  have hstep : (0 : ℚ) < 2 ^ e := by positivity
  have hunits := h.units_eq
  rw [hunits, abs_mul_two_pow_sub]
  -- Patterns from the exponent's range on are multiples of its step; below it they lie further off.
  by_cases hm : e = 0 ∨ (e + 1) * 2 ^ f.fractionBits ≤ m
  · obtain ⟨k, hk⟩ := exists_units_eq hm
    obtain ⟨hnear, htie⟩ := abs_sub_le_of_error (k := k) h.error
    rw [hk, abs_mul_two_pow_sub]
    refine ⟨mul_le_mul_of_nonneg_right hnear hstep.le, fun hne heq => ?_⟩
    -- At a tie the significand is even, and so is the pattern under it.
    have hks : k ≠ s := by
      rintro rfl
      exact hne (f.units_strictMono.injective (hk.trans hunits.symm))
    have hs := h.even (htie hks (mul_right_cancel₀ hstep.ne' heq))
    have hlead : 2 ∣ e * 2 ^ f.fractionBits := (dvd_pow_self 2 hfraction).mul_left e
    omega
  · obtain ⟨he, hm⟩ := not_or.mp hm
    have hlt := h.lt_of_below he (not_le.mp hm)
    exact ⟨hlt.le, fun _ heq => absurd heq hlt.ne⟩

end RoundsIn

/-- The pattern that a quotient of units is rounded to, if there is no largest magnitude. -/
def rounded (f : Interchange) (n d : ℕ) : ℕ :=
  f.binade n d * 2 ^ f.fractionBits + roundHalfEven n (d * 2 ^ f.binade n d)

/-- If there is no largest magnitude, then no other one is nearer than the rounded one. -/
theorem units_rounded_nearest (hfraction : f.fractionBits ≠ 0) (n : ℕ) {d : ℕ} (hd : 0 < d)
    (m : ℕ) :
    |(f.units (f.rounded n d) : ℚ) - n / d| ≤ |(f.units m : ℚ) - n / d| ∧
      (m ≠ f.rounded n d →
        |(f.units (f.rounded n d) : ℚ) - n / d| = |(f.units m : ℚ) - n / d| →
          f.rounded n d % 2 = 0) := by
  have hstep : (0 : ℚ) < 2 ^ f.binade n d := by positivity
  have hnearest := (f.roundsIn_binade n hd).nearest hfraction m
  rwa [← div_div, div_mul_cancel₀ _ hstep.ne'] at hnearest

/-- The pattern of the magnitude nearest to a value: up to that of infinity no other one is nearer,
    and if another one is as near then the pattern is even.  Infinity counts as the magnitude that
    would follow the largest one. -/
structure IsNearest (f : Interchange) (q : ℚ) (m : ℕ) : Prop where
  le_infinity : m ≤ f.infinity
  nearest : ∀ m' ≤ f.infinity, |f.rational m - q| ≤ |f.rational m' - q|
  even : ∀ m' ≤ f.infinity, m' ≠ m → |f.rational m - q| = |f.rational m' - q| → m % 2 = 0

section Nearest

variable {q : ℚ} {m m' : ℕ} (hfraction : f.fractionBits ≠ 0) (hexponent : 2 ≤ f.exponentBits)

include hexponent

/-- What is not below infinity is rounded to infinity. -/
theorem isNearest_infinity (h : f.rational f.infinity ≤ q) : f.IsNearest q f.infinity where
  le_infinity := le_rfl
  nearest m hm := by
    have hle : f.rational m ≤ f.rational f.infinity := (rational_strictMono hexponent).monotone hm
    rw [abs_of_nonpos (by linarith), abs_of_nonpos (by linarith)]
    linarith
  even m hm hne heq := by
    have hlt : f.rational m < f.rational f.infinity :=
      rational_strictMono hexponent (lt_of_le_of_ne hm hne)
    rw [abs_of_nonpos (by linarith), abs_of_nonpos (by linarith)] at heq
    linarith

/-- What is below half of the least magnitude is rounded to zero. -/
theorem isNearest_zero (hq : 0 ≤ q) (h : 2 * q < f.rational 1) : f.IsNearest q 0 where
  le_infinity := Nat.zero_le _
  nearest m _ := by
    obtain rfl | hm := m.eq_zero_or_pos
    · exact le_rfl
    · have hle : f.rational 1 ≤ f.rational m := (rational_strictMono hexponent).monotone hm
      have hzero : f.rational 0 = 0 := by simp [rational]
      rw [hzero, zero_sub, abs_neg, abs_of_nonneg hq, abs_of_nonneg (by linarith)]
      linarith
  even _ _ _ _ := rfl

/-- Between two nearest patterns there would be another one that is nearer. -/
theorem IsNearest.unique (h : f.IsNearest q m) (h' : f.IsNearest q m') : m = m' := by
  wlog hlt : m < m' generalizing m m'
  · obtain heq | hlt' := (not_lt.mp hlt).eq_or_lt
    · exact heq.symm
    · exact (this h' h hlt').symm
  exfalso
  have hvalues : f.rational m < f.rational m' := rational_strictMono hexponent hlt
  have heq : |f.rational m - q| = |f.rational m' - q| :=
    le_antisymm (h.nearest m' h'.le_infinity) (h'.nearest m h.le_infinity)
  have heven := h.even m' h'.le_infinity hlt.ne' heq
  have heven' := h'.even m h.le_infinity hlt.ne heq.symm
  have hbelow : f.rational m < f.rational (m + 1) :=
    rational_strictMono hexponent (Nat.lt_succ_self m)
  have habove : f.rational (m + 1) < f.rational m' := rational_strictMono hexponent (by omega)
  have hnearer := h.nearest (m + 1) (by have := h'.le_infinity; omega)
  -- The value is halfway between the two.
  obtain hsame | hopposite := abs_eq_abs.mp heq
  · linarith
  · obtain hsign | hsign := abs_cases (f.rational (m + 1) - q) <;>
      obtain hsign' | hsign' := abs_cases (f.rational m - q) <;> linarith

include hfraction

/-- A quotient is rounded to the nearest magnitude. -/
theorem isNearest_magnitudeOfRatio (n : ℕ) {d : ℕ} (hd : 0 < d) :
    f.IsNearest (n / d) (f.magnitudeOfRatio n d) := by
  have hscale : (0 : ℚ) < 2 ^ f.unitScale := by positivity
  have hdistance (m : ℕ) : |f.rational m - n / d| =
      |(f.units m : ℚ) - (n * 2 ^ f.unitScale : ℕ) / d| / 2 ^ f.unitScale := by
    have hvalue : (n : ℚ) / d = (n * 2 ^ f.unitScale : ℕ) / d / 2 ^ f.unitScale := by
      rw [Nat.cast_mul, Nat.cast_pow, Nat.cast_ofNat, mul_div_right_comm,
        mul_div_cancel_right₀ _ hscale.ne']
    rw [rational_eq hexponent, hvalue, ← sub_div, abs_div, abs_of_pos hscale]
  have hrounded := units_rounded_nearest hfraction (n * 2 ^ f.unitScale) hd
  have hmagnitude : f.magnitudeOfRatio n d =
      min f.infinity (f.rounded (n * 2 ^ f.unitScale) d) := rfl
  generalize f.rounded (n * 2 ^ f.unitScale) d = p at *
  rw [hmagnitude]
  obtain hle | hlt := le_or_gt p f.infinity
  · rw [min_eq_right hle]
    refine ⟨hle, fun m _ => ?_, fun m _ hne heq => ?_⟩
    · rw [hdistance, hdistance]
      exact div_le_div_of_nonneg_right (hrounded m).1 hscale.le
    · rw [hdistance, hdistance, div_left_inj' hscale.ne'] at heq
      exact (hrounded m).2 hne heq
  · rw [min_eq_left hlt.le]
    apply isNearest_infinity hexponent
    -- Otherwise infinity would be nearer than the pattern above it.
    by_contra hsmall
    have hnear : |f.rational p - n / d| ≤ |f.rational f.infinity - n / d| := by
      rw [hdistance, hdistance]
      exact div_le_div_of_nonneg_right (hrounded f.infinity).1 hscale.le
    have habove : f.rational f.infinity < f.rational p := rational_strictMono hexponent hlt
    rw [abs_of_nonneg (by linarith), abs_of_nonneg (by linarith)] at hnear
    linarith

end Nearest

/-! ## Decimals -/

/-- A number is below the power of ten with one digit more. -/
theorem lt_ten_pow_digitCount (n : ℕ) : n < 10 ^ digitCount n :=
  (Nat.length_toDigits_le_iff (by norm_num) Nat.length_toDigits_pos).mp le_rfl

/-- A number is not below the power of ten with as many digits. -/
theorem ten_pow_le_of_digitCount {n : ℕ} (hn : n ≠ 0) : 10 ^ (digitCount n - 1) ≤ n := by
  by_contra hlt
  have hpos : 0 < digitCount n := Nat.length_toDigits_pos
  obtain hone | hmore := Nat.eq_zero_or_pos (digitCount n - 1)
  · rw [hone, pow_zero] at hlt
    omega
  · have hle : digitCount n ≤ digitCount n - 1 :=
      (Nat.length_toDigits_le_iff (by norm_num) hmore).mpr (not_le.mp hlt)
    omega

section Decimals

variable (hfraction : f.fractionBits ≠ 0) (hexponent : 2 ≤ f.exponentBits)

include hexponent

/-- Infinity is not above the power of ten that is out of reach. -/
theorem rational_infinity_le : f.rational f.infinity ≤ 10 ^ (2 ^ f.exponentBits) := by
  have hlead : 0 < 2 ^ f.fractionBits := Nat.two_pow_pos _
  have hpow : 2 ^ 2 ≤ 2 ^ f.exponentBits := Nat.pow_le_pow_right (by norm_num) hexponent
  have hquotient : f.infinity / 2 ^ f.fractionBits = 2 ^ f.exponentBits - 1 :=
    Nat.mul_div_cancel _ hlead
  have hmod : f.infinity % 2 ^ f.fractionBits = 0 := Nat.mul_mod_left _ _
  unfold rational
  dsimp only
  rw [hquotient, hmod, if_neg (by omega), Nat.cast_zero, zero_div, add_zero, one_mul]
  calc (2 : ℚ) ^ (((2 ^ f.exponentBits - 1 : ℕ) : ℤ) - f.bias)
    _ ≤ 2 ^ ((2 ^ f.exponentBits : ℕ) : ℤ) := by
      apply zpow_le_zpow_right₀ (by norm_num)
      omega
    _ = 2 ^ 2 ^ f.exponentBits := zpow_natCast _ _
    _ ≤ 10 ^ 2 ^ f.exponentBits := by gcongr; norm_num

/-- A decimal whose first digit alone is out of reach is not below infinity. -/
theorem rational_infinity_le_decimal {digits : ℕ} {exponent : ℤ} (hdigits : digits ≠ 0)
    (hfar : ((2 ^ f.exponentBits : ℕ) : ℤ) < digitCount digits + exponent) :
    f.rational f.infinity ≤ digits * 10 ^ exponent := by
  have hfirst : (10 : ℚ) ^ (digitCount digits - 1) ≤ digits := by
    exact_mod_cast ten_pow_le_of_digitCount hdigits
  have hpoint : ((2 ^ f.exponentBits : ℕ) : ℤ) ≤ (digitCount digits - 1 : ℕ) + exponent := by
    omega
  calc f.rational f.infinity
    _ ≤ 10 ^ 2 ^ f.exponentBits := rational_infinity_le hexponent
    _ = 10 ^ ((2 ^ f.exponentBits : ℕ) : ℤ) := (zpow_natCast _ _).symm
    _ ≤ 10 ^ (((digitCount digits - 1 : ℕ) : ℤ) + exponent) :=
      zpow_le_zpow_right₀ (by norm_num) hpoint
    _ = 10 ^ (digitCount digits - 1) * 10 ^ exponent := by
      rw [zpow_add₀ (by norm_num), zpow_natCast]
    _ ≤ digits * 10 ^ exponent := by gcongr

include hfraction

/-- The power of ten that is out of reach on the other side is below half of the least magnitude. -/
theorem two_mul_lt_rational_one (hfit : f.fractionBits ≤ 2 ^ f.exponentBits) :
    2 * (10 : ℚ)⁻¹ ^ (2 ^ f.exponentBits + 1) < f.rational 1 := by
  -- The first pattern is one unit.
  have hunit : f.rational 1 = 1 / 2 ^ f.unitScale := by
    have hlead : 1 < 2 ^ f.fractionBits := Nat.one_lt_two_pow hfraction
    have hone : f.units 1 = 1 := by
      unfold units
      simp only [Nat.pow_eq]
      rw [Nat.div_eq_of_lt hlead, if_pos rfl, Nat.mod_eq_of_lt hlead]
    rw [rational_eq hexponent, hone, Nat.cast_one]
  -- The units are no finer than the square of two to the range of exponents.
  have hscale : f.unitScale + 1 ≤ 2 * 2 ^ f.exponentBits := by
    have hbias : f.bias ≤ 2 ^ f.exponentBits :=
      (Nat.sub_le _ _).trans (Nat.pow_le_pow_right (by norm_num) (Nat.sub_le _ _))
    rw [unitScale_add_one hexponent]
    omega
  have hpow : (2 : ℚ) ^ (f.unitScale + 1) < 10 ^ (2 ^ f.exponentBits + 1) := by
    calc (2 : ℚ) ^ (f.unitScale + 1)
      _ ≤ 2 ^ (2 * 2 ^ f.exponentBits) := pow_le_pow_right₀ (by norm_num) hscale
      _ = (2 ^ 2) ^ 2 ^ f.exponentBits := pow_mul _ _ _
      _ ≤ 10 ^ 2 ^ f.exponentBits := by gcongr; norm_num
      _ < 10 ^ (2 ^ f.exponentBits + 1) := pow_lt_pow_right₀ (by norm_num) (Nat.lt_succ_self _)
  rw [hunit]
  calc 2 * (10 : ℚ)⁻¹ ^ (2 ^ f.exponentBits + 1)
    _ = 2 / 10 ^ (2 ^ f.exponentBits + 1) := by rw [inv_pow, div_eq_mul_inv]
    _ < 2 / 2 ^ (f.unitScale + 1) := div_lt_div_of_pos_left (by norm_num) (by positivity) hpow
    _ = 1 / 2 ^ f.unitScale := by rw [pow_succ', ← div_div, div_self two_ne_zero]

/-- A decimal all of whose digits are out of reach is below half of the least magnitude. -/
theorem two_mul_decimal_lt_rational_one (hfit : f.fractionBits ≤ 2 ^ f.exponentBits) {digits : ℕ}
    {exponent : ℤ} (hfar : (digitCount digits : ℤ) + exponent < -((2 ^ f.exponentBits : ℕ) : ℤ)) :
    2 * ((digits : ℚ) * 10 ^ exponent) < f.rational 1 := by
  have hdigits : (digits : ℚ) < 10 ^ digitCount digits := by
    exact_mod_cast lt_ten_pow_digitCount digits
  have hpoint : (digitCount digits : ℤ) + exponent ≤ -(2 ^ f.exponentBits + 1 : ℕ) := by
    omega
  have hvalue : digits * (10 : ℚ) ^ exponent < 10⁻¹ ^ (2 ^ f.exponentBits + 1) := by
    calc digits * (10 : ℚ) ^ exponent
      _ < 10 ^ digitCount digits * 10 ^ exponent := by gcongr
      _ = 10 ^ ((digitCount digits : ℤ) + exponent) := by
        rw [zpow_add₀ (by norm_num), zpow_natCast]
      _ ≤ 10 ^ (-(2 ^ f.exponentBits + 1 : ℕ) : ℤ) := zpow_le_zpow_right₀ (by norm_num) hpoint
      _ = 10⁻¹ ^ (2 ^ f.exponentBits + 1) := by rw [zpow_neg, zpow_natCast, inv_pow]
  linarith [two_mul_lt_rational_one hfraction hexponent hfit]

/-- A written decimal is rounded to the nearest magnitude, also where it is out of reach. -/
theorem isNearest_magnitudeOfWritten (hfit : f.fractionBits ≤ 2 ^ f.exponentBits) (digits : ℕ)
    (exponent : ℤ) : f.IsNearest (digits * 10 ^ exponent)
      (f.magnitudeOfWritten (.decimal digits exponent)) := by
  unfold magnitudeOfWritten
  simp only [Nat.pow_eq]
  split_ifs with hzero hlarge hsmall hnegative
  · apply isNearest_zero hexponent (by positivity)
    rw [hzero, Nat.cast_zero, zero_mul, mul_zero]
    exact lt_of_le_of_lt (by positivity) (two_mul_lt_rational_one hfraction hexponent hfit)
  · exact isNearest_infinity hexponent (rational_infinity_le_decimal hexponent hzero hlarge)
  · exact isNearest_zero hexponent (by positivity)
      (two_mul_decimal_lt_rational_one hfraction hexponent hfit hsmall)
  · -- A fraction.
    have hexp : exponent = -(exponent.natAbs : ℤ) := by omega
    have hratio := isNearest_magnitudeOfRatio hfraction hexponent digits
      (d := 10 ^ exponent.natAbs) (by positivity)
    rw [Nat.cast_pow, Nat.cast_ofNat, div_eq_mul_inv, ← zpow_natCast, ← zpow_neg, ← hexp] at hratio
    exact hratio
  · -- A whole number.
    have hexp : exponent = exponent.natAbs := by omega
    have hratio := isNearest_magnitudeOfRatio hfraction hexponent (digits * 10 ^ exponent.natAbs)
      (d := 1) Nat.one_pos
    rw [Nat.cast_one, div_one, Nat.cast_mul, Nat.cast_pow, Nat.cast_ofNat, ← zpow_natCast, ← hexp]
      at hratio
    exact hratio

end Decimals

end Interchange

end ShaderConformance.Floating
