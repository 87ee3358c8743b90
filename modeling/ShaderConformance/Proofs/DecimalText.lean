import ShaderConformance.Floating.Decimal
import ShaderConformance.Proofs.Numerals
import ShaderConformance.Proofs.QualifierGrammar

/-!
# The grammar of decimals

The digits on both sides of a point are one number, scaled by as many powers of ten as there are
digits behind the point.  An exponent may stand behind the digits.

## Main definitions

- `ExponentText`, `DecimalText`, `SignedDecimal`: the grammar

## Main statements

- `decimal?_eq_some_iff`: what is read is what the grammar derives
- `Interchange.read?_eq_some_iff`: a number with a point is rounded and given its sign
-/

namespace ShaderConformance.Floating

open Text

/-- The exponent behind the digits of a number, in a text of its own behind `e` or `E`. -/
inductive ExponentText : Text → Int → Prop
  | none : ExponentText [] 0
  | plain {letter s n} (hletter : letter = 'e' ∨ letter = 'E') (h : SignedNumeral 10 s n) :
    ExponentText (letter :: s) n
  | negative {letter s n} (hletter : letter = 'e' ∨ letter = 'E') (h : Numeral 10 s n) :
    ExponentText (letter :: '-' :: s) (-n)

/-- A number in decimal stands for its digits times a power of ten. -/
inductive DecimalText : Text → Nat → Int → Prop
  | whole {whole tail digits exponent} (hdigits : Numeral 10 whole digits)
    (htail : ExponentText tail exponent) : DecimalText (whole ++ tail) digits exponent
  | point {whole fraction tail digits exponent} (hdigits : Numeral 10 (whole ++ fraction) digits)
    (htail : ExponentText tail exponent) :
    DecimalText (whole ++ '.' :: (fraction ++ tail)) digits (exponent - fraction.length)

/-- A sign may stand in front of a number in decimal. -/
inductive SignedDecimal : Text → (negative : Bool) → Nat → Int → Prop
  | plain {s digits exponent} (h : DecimalText s digits exponent) :
    SignedDecimal s false digits exponent
  | plus {s digits exponent} (h : DecimalText s digits exponent) :
    SignedDecimal ('+' :: s) false digits exponent
  | minus {s digits exponent} (h : DecimalText s digits exponent) :
    SignedDecimal ('-' :: s) true digits exponent

/-! ## Exponents -/

section Exponents

variable {s : Text} {n : Nat} {exponent : Int}

/-- Digits may have a plus sign in front. -/
theorem digits?_dropPlus_eq_some_iff : digits? 10 (dropPlus s) = some n ↔ SignedNumeral 10 s n :=
  (digits?_eq_some_iff (by decide)).trans (numeral_dropPlus_iff (by decide))

/-- A minus sign makes an exponent negative. -/
theorem exponent?_minus : exponent? ('-' :: s) = (digits? 10 s).map fun n : Nat => -(n : Int) := by
  cases h : digits? 10 s <;> simp only [exponent?, h] <;> rfl

/-- Without a minus sign an exponent is not negative. -/
theorem exponent?_of_head (hminus : s.head? ≠ some '-') :
    exponent? s = (digits? 10 (dropPlus s)).map fun n : Nat => (n : Int) := by
  unfold exponent?
  split
  · exact absurd rfl hminus
  · cases digits? 10 (dropPlus s) <;> rfl

/-- An exponent is read if it is written as one. -/
theorem exponentPart?_eq_some_iff : exponentPart? s = some exponent ↔ ExponentText s exponent := by
  constructor
  · intro h
    unfold exponentPart? at h
    split at h
    · cases h
      exact .none
    · rename_i letter digits
      split at h
      · rename_i hletter
        -- The sign says which of the two forms it is.
        by_cases hminus : digits.head? = some '-'
        · obtain ⟨digits, rfl⟩ := List.head?_eq_some_iff.mp hminus
          rw [exponent?_minus] at h
          obtain ⟨n, hn, rfl⟩ := Option.map_eq_some_iff.mp h
          exact .negative hletter ((digits?_eq_some_iff (by decide)).mp hn)
        · rw [exponent?_of_head hminus] at h
          obtain ⟨n, hn, rfl⟩ := Option.map_eq_some_iff.mp h
          exact .plain hletter (digits?_dropPlus_eq_some_iff.mp hn)
      · cases h
  · intro h
    cases h with
    | none => rfl
    | plain hletter h =>
      -- Digits with a plus sign begin with no minus sign.
      have hminus : '-' ∉ _ := h.not_mem (by decide) (by decide) rfl
      rw [exponentPart?, if_pos hletter,
        exponent?_of_head fun hhead => hminus (List.mem_of_mem_head? hhead),
        digits?_dropPlus_eq_some_iff.mpr h, Option.map_some]
    | negative hletter h =>
      rw [exponentPart?, if_pos hletter, exponent?_minus, (digits?_eq_some_iff (by decide)).mpr h,
        Option.map_some]

end Exponents

/-! ## Digits and the point -/

section Decimals

variable {s : Text} {digits : Nat} {exponent : Int}

/-- An exponent begins with no digit. -/
theorem ExponentText.stops (h : ExponentText s exponent) : s.Stops Char.isDigit := by
  cases h with
  | none => exact nofun
  | plain hletter | negative hletter =>
    rw [stops_cons_iff]
    obtain rfl | rfl := hletter <;> rfl

/-- There is no point in an exponent. -/
theorem ExponentText.not_mem_point (h : ExponentText s exponent) : '.' ∉ s := by
  cases h with
  | none => exact nofun
  | plain hletter h =>
    have hpoint : '.' ∉ _ := h.not_mem (by decide) (by decide) rfl
    obtain rfl | rfl := hletter <;> simp [hpoint]
  | negative hletter h =>
    have hpoint : '.' ∉ _ := (SignedNumeral.plain h).not_mem (by decide) (by decide) rfl
    obtain rfl | rfl := hletter <;> simp [hpoint]

/-- Digits on both sides of a point are one number. -/
theorem decimal?_of_point {whole behind : Text} (hwhole : ∀ c ∈ whole, c.isDigit = true) :
    decimal? (whole ++ '.' :: behind) =
      (digits? 10 (whole ++ behind.takeWhile Char.isDigit)).bind fun digits =>
        (exponentPart? (behind.dropWhile Char.isDigit)).map fun exponent =>
          .decimal digits (exponent - (behind.takeWhile Char.isDigit).length) := by
  have hpoint : Text.Stops Char.isDigit ('.' :: behind) := stops_cons_iff.mpr rfl
  unfold decimal?
  rw [takeWhile_append_of_stops hwhole hpoint, dropWhile_append_of_stops hwhole hpoint]
  rfl

/-- Without a point the digits are all in front. -/
theorem decimal?_of_stops {whole tail : Text} (hwhole : ∀ c ∈ whole, c.isDigit = true)
    (hdigit : tail.Stops Char.isDigit) (hpoint : tail.head? ≠ some '.') :
    decimal? (whole ++ tail) = (digits? 10 whole).bind fun digits =>
      (exponentPart? tail).map fun exponent => .decimal digits exponent := by
  unfold decimal?
  rw [takeWhile_append_of_stops hwhole hdigit, dropWhile_append_of_stops hwhole hdigit]
  dsimp only
  split
  · exact absurd rfl hpoint
  · simp

/-- A decimal is read if it is written as one. -/
theorem decimal?_eq_some_iff :
    decimal? s = some (.decimal digits exponent) ↔ DecimalText s digits exponent := by
  constructor
  · intro h
    obtain ⟨whole, hwhole⟩ : ∃ whole : Text, whole = s.takeWhile Char.isDigit := ⟨_, rfl⟩
    obtain ⟨behind, hbehind⟩ : ∃ behind : Text, behind = s.dropWhile Char.isDigit := ⟨_, rfl⟩
    have hs : s = whole ++ behind := by
      rw [hwhole, hbehind, List.takeWhile_append_dropWhile]
    have hdigits : ∀ c ∈ whole, c.isDigit = true := fun c hc =>
      List.mem_takeWhile_imp (hwhole ▸ hc)
    have hstops : behind.Stops Char.isDigit := hbehind ▸ stops_dropWhile _ s
    rw [hs] at h ⊢
    -- The digits end at the point or, without one, where the exponent begins.
    by_cases hpoint : behind.head? = some '.'
    · obtain ⟨behind, rfl⟩ := List.head?_eq_some_iff.mp hpoint
      rw [decimal?_of_point hdigits] at h
      obtain ⟨n, hn, h⟩ := Option.bind_eq_some_iff.mp h
      obtain ⟨e, he, heq⟩ := Option.map_eq_some_iff.mp h
      cases heq
      have hread := DecimalText.point ((digits?_eq_some_iff (by decide)).mp hn)
        (exponentPart?_eq_some_iff.mp he)
      rwa [List.takeWhile_append_dropWhile] at hread
    · rw [decimal?_of_stops hdigits hstops hpoint] at h
      obtain ⟨n, hn, h⟩ := Option.bind_eq_some_iff.mp h
      obtain ⟨e, he, heq⟩ := Option.map_eq_some_iff.mp h
      cases heq
      exact .whole ((digits?_eq_some_iff (by decide)).mp hn) (exponentPart?_eq_some_iff.mp he)
  · intro h
    cases h with
    | whole hdigits htail =>
      have hpoint := htail.not_mem_point
      rw [decimal?_of_stops hdigits.isDigit htail.stops
          fun hhead => hpoint (List.mem_of_mem_head? hhead),
        (digits?_eq_some_iff (by decide)).mpr hdigits, exponentPart?_eq_some_iff.mpr htail]
      rfl
    | point hdigits htail =>
      obtain ⟨hwhole, hfraction⟩ := List.forall_mem_append.mp hdigits.isDigit
      rw [decimal?_of_point hwhole, takeWhile_append_of_stops hfraction htail.stops,
        dropWhile_append_of_stops hfraction htail.stops,
        (digits?_eq_some_iff (by decide)).mpr hdigits, exponentPart?_eq_some_iff.mpr htail]
      rfl

/-- Nothing but digits is read here, not the name of an infinity. -/
theorem exists_of_decimal? {number : Written} (h : decimal? s = some number) :
    ∃ digits exponent, number = .decimal digits exponent := by
  obtain ⟨digits, -, h⟩ := Option.bind_eq_some_iff.mp h
  obtain ⟨exponent, -, h⟩ := Option.map_eq_some_iff.mp h
  exact ⟨digits, _, h.symm⟩

/-- A point is in no name of an infinity or of what is not a number. -/
theorem written?_of_mem_point (hpoint : '.' ∈ s) : written? s = decimal? s := by
  have hname {name : Text} (hfree : '.' ∉ name) : lowerCase s ≠ name := by
    rintro rfl
    exact hfree (List.mem_map_of_mem hpoint)
  unfold written?
  dsimp only
  rw [if_neg (not_or.mpr ⟨hname (by decide), hname (by decide)⟩), if_neg (hname (by decide))]

/-- A number begins with a digit or the point. -/
theorem DecimalText.isDigit_or_eq_point {c : Char} (h : DecimalText s digits exponent)
    (hc : s.head? = some c) : c.isDigit = true ∨ c = '.' := by
  cases h with
  | whole hdigits htail =>
    obtain ⟨c', cs, rfl⟩ := List.exists_cons_of_ne_nil hdigits.ne_nil
    obtain rfl : c' = c := Option.some.inj hc
    exact Or.inl (hdigits.isDigit c' List.mem_cons_self)
  | @point whole _ _ _ _ hdigits htail =>
    cases whole with
    | nil => exact Or.inr (Option.some.inj hc).symm
    | cons c' cs =>
      obtain rfl : c' = c := Option.some.inj hc
      exact Or.inl (hdigits.isDigit c' List.mem_cons_self)

end Decimals

/-! ## Signs -/

section Signs

variable {f : Interchange} {s : Text} {bits : Nat}

/-- With a point in it, a magnitude is a decimal. -/
theorem written?_eq_some_iff {number : Written} (hpoint : '.' ∈ s) :
    written? s = some number ↔
      ∃ digits exponent, DecimalText s digits exponent ∧ number = .decimal digits exponent := by
  rw [written?_of_mem_point hpoint]
  constructor
  · intro h
    obtain ⟨digits, exponent, rfl⟩ := exists_of_decimal? h
    exact ⟨digits, exponent, decimal?_eq_some_iff.mp h, rfl⟩
  · rintro ⟨digits, exponent, h, rfl⟩
    exact decimal?_eq_some_iff.mpr h

namespace Interchange

/-- Without a sign a number is not negative. -/
theorem read?_of_head (hplus : s.head? ≠ some '+') (hminus : s.head? ≠ some '-') :
    f.read? s = (written? s).map fun w => f.withSign false (f.magnitudeOfWritten w) := by
  unfold read?
  split
  · exact absurd rfl hminus
  · unfold dropPlus
    split
    · exact absurd rfl hplus
    · rfl

/-- A number with a point is rounded to a magnitude and given its sign. -/
theorem read?_eq_some_iff (hpoint : '.' ∈ s) :
    f.read? s = some bits ↔ ∃ negative digits exponent, SignedDecimal s negative digits exponent ∧
      bits = f.withSign negative (f.magnitudeOfWritten (.decimal digits exponent)) := by
  constructor
  · intro h
    by_cases hplus : s.head? = some '+'
    · obtain ⟨s, rfl⟩ := List.head?_eq_some_iff.mp hplus
      obtain ⟨number, hnumber, rfl⟩ := Option.map_eq_some_iff.mp h
      obtain ⟨digits, exponent, hs, rfl⟩ :=
        (written?_eq_some_iff (List.mem_of_ne_of_mem (by decide) hpoint)).mp hnumber
      exact ⟨false, digits, exponent, .plus hs, rfl⟩
    · by_cases hminus : s.head? = some '-'
      · obtain ⟨s, rfl⟩ := List.head?_eq_some_iff.mp hminus
        obtain ⟨number, hnumber, rfl⟩ := Option.map_eq_some_iff.mp h
        obtain ⟨digits, exponent, hs, rfl⟩ :=
          (written?_eq_some_iff (List.mem_of_ne_of_mem (by decide) hpoint)).mp hnumber
        exact ⟨true, digits, exponent, .minus hs, rfl⟩
      · rw [read?_of_head hplus hminus] at h
        obtain ⟨number, hnumber, rfl⟩ := Option.map_eq_some_iff.mp h
        obtain ⟨digits, exponent, hs, rfl⟩ := (written?_eq_some_iff hpoint).mp hnumber
        exact ⟨false, digits, exponent, .plain hs, rfl⟩
  · rintro ⟨negative, digits, exponent, hs, rfl⟩
    cases hs with
    | plain h =>
      -- A number begins with neither sign, so the text is read as it stands.
      have hhead (sign : Char) (hdigit : sign.isDigit = false) (hsign : sign ≠ '.') :
          s.head? ≠ some sign := by
        intro hhead
        obtain hc | hc := h.isDigit_or_eq_point hhead
        · rw [hc] at hdigit
          cases hdigit
        · exact hsign hc
      rw [read?_of_head (hhead '+' rfl (by decide)) (hhead '-' rfl (by decide)),
        (written?_eq_some_iff hpoint).mpr ⟨digits, exponent, h, rfl⟩, Option.map_some]
    | @plus s _ _ h =>
      have hread : f.read? ('+' :: s) =
          (written? s).map fun w => f.withSign false (f.magnitudeOfWritten w) := rfl
      rw [hread, (written?_eq_some_iff (List.mem_of_ne_of_mem (by decide) hpoint)).mpr
        ⟨digits, exponent, h, rfl⟩, Option.map_some]
    | @minus s _ _ h =>
      have hread : f.read? ('-' :: s) =
          (written? s).map fun w => f.withSign true (f.magnitudeOfWritten w) := rfl
      rw [hread, (written?_eq_some_iff (List.mem_of_ne_of_mem (by decide) hpoint)).mpr
        ⟨digits, exponent, h, rfl⟩, Option.map_some]

end Interchange

end Signs

end ShaderConformance.Floating
