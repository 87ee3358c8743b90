import ShaderConformance.Proofs.NearestNumbers
import ShaderConformance.Proofs.RepresentableSteps

/-!
# Numbers in a wider format

A number is converted to the nearest number of another format.  A format that is wider in both
fields has all values of the narrower one, so there nothing is lost.

## Main definitions

- `Interchange.Widens`: a format is wider than another one in both fields

## Main statements

- `Interchange.magnitudeOfRatio_eq`: a quotient that is a magnitude is that magnitude
- `Interchange.exists_units_eq_shifted`: a short significand is a magnitude in every high binade
- `Interchange.Widens.isNaN_convert`, `Interchange.Widens.value_convert`: a conversion to a wider
  format keeps the value
- `Single.value_ofHalf`, `Single.value_toDouble`: the conversions of the two widths that tests use
-/

namespace ShaderConformance.Floating.Interchange

variable {f g : Interchange}

/-! ## Values without rounding -/

section Exact

variable (hfraction : f.fractionBits ≠ 0) (hexponent : 2 ≤ f.exponentBits)

include hexponent

/-- Of the values of magnitudes, each is nearest to itself. -/
theorem isNearest_rational {m : ℕ} (hm : m ≤ f.infinity) : f.IsNearest (f.rational m) m where
  le_infinity := hm
  nearest m' _ := by
    rw [sub_self, abs_zero]
    exact abs_nonneg _
  even m' _ hne heq := by
    rw [sub_self, abs_zero, eq_comm, abs_eq_zero, sub_eq_zero] at heq
    exact absurd ((rational_strictMono hexponent).injective heq) hne

include hfraction

/-- A quotient that is the value of a magnitude is rounded to that magnitude. -/
theorem magnitudeOfRatio_eq {n d m : ℕ} (hd : 0 < d) (hm : m ≤ f.infinity)
    (hvalue : (n : ℚ) / d = f.rational m) : f.magnitudeOfRatio n d = m := by
  have hnearest := isNearest_magnitudeOfRatio hfraction hexponent n hd
  rw [hvalue] at hnearest
  exact hnearest.unique hexponent (isNearest_rational hexponent hm)

end Exact

/-- A significand that is not longer than those of a format, shifted far enough, is a magnitude:
    it is moved to the left until it has a leading one. -/
theorem exists_units_eq_shifted {s shift : ℕ} (hs : s < 2 ^ (f.fractionBits + 1))
    (hshift : f.fractionBits ≤ shift) :
    ∃ m < (shift + 2) * 2 ^ f.fractionBits, f.units m = s * 2 ^ shift := by
  obtain rfl | hpos := s.eq_zero_or_pos
  · refine ⟨0, by positivity, ?_⟩
    have hzero := units_significand (Nat.zero_le (2 ^ (f.fractionBits + 1))) (Or.inl rfl)
    simpa using hzero
  · have hlog : s.log2 ≤ f.fractionBits :=
      Nat.lt_succ_iff.mp ((Nat.log2_lt hpos.ne').mpr hs)
    -- Moved left until its leading bit is the hidden one, the number is a significand.
    obtain ⟨left, hleft⟩ := Nat.exists_eq_add_of_le hlog
    have hlow : 2 ^ f.fractionBits ≤ s * 2 ^ left := by
      rw [hleft, pow_add]
      exact Nat.mul_le_mul_right _ (Nat.log2_self_le hpos.ne')
    have hhigh : s * 2 ^ left < 2 ^ (f.fractionBits + 1) := by
      rw [hleft, Nat.add_right_comm, pow_add]
      exact Nat.mul_lt_mul_of_pos_right Nat.lt_log2_self (by positivity)
    refine ⟨(shift - left) * 2 ^ f.fractionBits + s * 2 ^ left, ?_, ?_⟩
    · calc (shift - left) * 2 ^ f.fractionBits + s * 2 ^ left
        _ < shift * 2 ^ f.fractionBits + 2 ^ (f.fractionBits + 1) :=
          Nat.add_lt_add_of_le_of_lt (Nat.mul_le_mul_right _ (Nat.sub_le _ _)) hhigh
        _ = (shift + 2) * 2 ^ f.fractionBits := by ring
    · rw [units_significand hhigh.le (Or.inr hlow), mul_assoc, ← pow_add]
      congr 2
      omega

/-- The units of a magnitude are a significand in the binade of its exponent field. -/
theorem exists_significand (f : Interchange) (m : ℕ) :
    ∃ s < 2 ^ (f.fractionBits + 1), f.units m = s * 2 ^ (m / 2 ^ f.fractionBits - 1) := by
  have hlead : 0 < 2 ^ f.fractionBits := Nat.two_pow_pos _
  have hmod : m % 2 ^ f.fractionBits < 2 ^ f.fractionBits := Nat.mod_lt _ hlead
  unfold units
  simp only [Nat.pow_eq]
  split
  · rename_i hfield
    refine ⟨m % 2 ^ f.fractionBits, by rw [pow_succ]; omega, ?_⟩
    rw [hfield, Nat.zero_sub, pow_zero, mul_one]
  · exact ⟨_, by rw [pow_succ]; omega, rfl⟩

/-! ## Wider formats -/

/-- A format is wider than another one in both fields: by so much in the exponent that its units
    are smaller, even after a fraction has been moved to the left by all of its bits. -/
structure Widens (f g : Interchange) : Prop where
  fraction : f.fractionBits ≠ 0
  exponent : 2 ≤ f.exponentBits
  fraction_le : f.fractionBits ≤ g.fractionBits
  exponent_le : f.exponentBits ≤ g.exponentBits
  scale_le : f.unitScale + g.fractionBits ≤ g.unitScale
  range_le : 2 ^ f.exponentBits + (g.unitScale - f.unitScale) < 2 ^ g.exponentBits

namespace Widens

variable (h : f.Widens g)

include h

/-- A finite magnitude of a format is one of a wider format. -/
theorem exists_rational_eq {m : ℕ} (hm : m < f.infinity) :
    ∃ m' < g.infinity, g.rational m' = f.rational m := by
  have hlead : 0 < 2 ^ f.fractionBits := Nat.two_pow_pos _
  have hfield : m / 2 ^ f.fractionBits < 2 ^ f.exponentBits - 1 :=
    (Nat.div_lt_iff_lt_mul hlead).mpr hm
  obtain ⟨s, hs, hunits⟩ := f.exists_significand m
  generalize m / 2 ^ f.fractionBits = field at *
  -- The units of the wider format are smaller by a power of two.
  obtain ⟨shift, hshift⟩ := Nat.exists_eq_add_of_le (Nat.le_of_add_right_le h.scale_le)
  have hlong : s < 2 ^ (g.fractionBits + 1) :=
    hs.trans_le (Nat.pow_le_pow_right (by norm_num) (Nat.succ_le_succ h.fraction_le))
  have hscale := h.scale_le
  obtain ⟨m', hm', hunits'⟩ := exists_units_eq_shifted hlong
    (show g.fractionBits ≤ field - 1 + shift by omega)
  refine ⟨m', hm'.trans_le (Nat.mul_le_mul_right _ ?_), ?_⟩
  · have hrange := h.range_le
    simp only [Nat.pow_eq]
    omega
  · rw [rational_eq (h.exponent.trans h.exponent_le), rational_eq h.exponent, hunits', hunits,
      hshift]
    push_cast
    rw [pow_add, pow_add, ← mul_assoc, mul_div_mul_right _ _ (by positivity)]

/-- A finite magnitude is converted to one of the same value. -/
theorem rational_convertMagnitude {m : ℕ} (hm : m < f.infinity) :
    f.convertMagnitude g m < g.infinity ∧ g.rational (f.convertMagnitude g m) = f.rational m := by
  obtain ⟨m', hm', hvalue⟩ := h.exists_rational_eq hm
  have hfraction : g.fractionBits ≠ 0 :=
    (Nat.lt_of_lt_of_le (Nat.pos_of_ne_zero h.fraction) h.fraction_le).ne'
  have hquotient : (f.units m : ℚ) / (2 ^ f.unitScale : ℕ) = g.rational m' := by
    rw [hvalue, rational_eq h.exponent]
    push_cast
    rfl
  have hconvert : f.convertMagnitude g m = m' := by
    rw [convertMagnitude, if_pos hm]
    exact magnitudeOfRatio_eq hfraction (h.exponent.trans h.exponent_le) (Nat.two_pow_pos _)
      hm'.le hquotient
  rw [hconvert]
  exact ⟨hm', hvalue⟩

/-- What is not a number is converted to something quiet that is not a number either. -/
theorem convertMagnitude_nan {m : ℕ} (hm : f.infinity < m) :
    g.quietNaN ≤ f.convertMagnitude g m ∧ f.convertMagnitude g m < g.signWeight := by
  have hfraction : g.fractionBits - 1 + 1 = g.fractionBits :=
    Nat.sub_add_cancel ((Nat.pos_of_ne_zero h.fraction).trans_le h.fraction_le)
  have hpow : 1 ≤ 2 ^ g.exponentBits := Nat.one_le_two_pow
  rw [convertMagnitude, if_neg (by omega), if_neg (by omega)]
  refine ⟨Nat.le_add_right _ _, ?_⟩
  -- The quiet bit and the bits below it are a fraction.
  calc g.quietNaN + _ % Nat.pow 2 (g.fractionBits - 1)
    _ < g.quietNaN + 2 ^ (g.fractionBits - 1) :=
      Nat.add_lt_add_left (Nat.mod_lt _ (Nat.two_pow_pos _)) _
    _ = (2 ^ g.exponentBits - 1) * 2 ^ g.fractionBits + 2 ^ (g.fractionBits - 1 + 1) := by
      rw [quietNaN, infinity, pow_succ]
      simp only [Nat.pow_eq]
      omega
    _ = g.signWeight := by
      rw [hfraction, ← Nat.succ_mul, Nat.succ_eq_add_one, Nat.sub_add_cancel hpow, signWeight,
        Nat.pow_eq, pow_add, mul_comm]

/-- Numbers stay on their side of infinity, and all patterns within their width. -/
theorem convertMagnitude_spec (m : ℕ) :
    f.convertMagnitude g m < g.signWeight ∧
      (f.convertMagnitude g m < g.infinity ↔ m < f.infinity) ∧
      (g.infinity < f.convertMagnitude g m ↔ f.infinity < m) := by
  have hinfinity := g.infinity_lt
  obtain hlt | rfl | hgt := Nat.lt_trichotomy m f.infinity
  · obtain ⟨hlt', -⟩ := h.rational_convertMagnitude hlt
    omega
  · have hconvert : f.convertMagnitude g f.infinity = g.infinity := by
      rw [convertMagnitude, if_neg (Nat.lt_irrefl _), if_pos rfl]
    omega
  · obtain ⟨hquiet, hlt⟩ := h.convertMagnitude_nan hgt
    have hpos : 0 < 2 ^ (g.fractionBits - 1) := Nat.two_pow_pos _
    rw [quietNaN, Nat.pow_eq] at hquiet
    omega

/-- What is converted fits into the width of the wider format. -/
theorem convert_lt (bits : ℕ) : f.convert g bits < 2 * g.signWeight :=
  withSign_lt (h.convertMagnitude_spec _).1 _

/-- What is a number is converted to a number, and what is none to none. -/
theorem isNaN_convert (bits : ℕ) : g.isNaN (f.convert g bits) = f.isNaN bits := by
  obtain ⟨hwidth, -, hnan⟩ := h.convertMagnitude_spec (f.magnitude bits)
  rw [isNaN, isNaN, convert, magnitude_withSign hwidth]
  exact decide_eq_decide.mpr hnan

/-- A conversion to a wider format keeps the value. -/
theorem value_convert (bits : ℕ) : g.value (f.convert g bits) = f.value bits := by
  obtain ⟨hwidth, hfinite, -⟩ := h.convertMagnitude_spec (f.magnitude bits)
  unfold value convert
  simp only [magnitude_withSign hwidth, isNegative_withSign hwidth, hfinite]
  split
  · rename_i hlt
    rw [(h.rational_convertMagnitude hlt).2]
  · rfl

end Widens

/-- Single precision is wider than half precision in both fields. -/
theorem half_widens_single : half.Widens single := by
  constructor <;> decide

theorem single_widens_double : single.Widens double := by
  constructor <;> decide

end ShaderConformance.Floating.Interchange

namespace ShaderConformance

open Floating Floating.Interchange

/-- What a half precision pattern stands for is kept in single precision. -/
theorem Single.value_ofHalf (bits : UInt16) :
    (ofHalf bits).isNaN = half.isNaN bits.toNat ∧ (ofHalf bits).value = half.value bits.toNat := by
  have hbits : (ofHalf bits).bits.toNat = half.convert single bits.toNat :=
    UInt32.toNat_ofNat_of_lt' (half_widens_single.convert_lt _)
  rw [isNaN, value, hbits]
  exact ⟨half_widens_single.isNaN_convert _, half_widens_single.value_convert _⟩

/-- What a number stands for is kept in double precision. -/
theorem Single.value_toDouble (x : Single) :
    x.toDouble.isNaN = x.isNaN ∧ x.toDouble.value = x.value := by
  have hbits : x.toDouble.bits.toNat = single.convert double x.bits.toNat :=
    UInt64.toNat_ofNat_of_lt' (single_widens_double.convert_lt _)
  rw [Double.isNaN, Double.value, hbits]
  exact ⟨single_widens_double.isNaN_convert _, single_widens_double.value_convert _⟩

end ShaderConformance
