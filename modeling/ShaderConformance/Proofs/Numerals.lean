import Mathlib.Data.List.Forall2
import Mathlib.Data.Nat.Digits.Defs
import ShaderConformance.Text.Integer

/-!
# What numerals stand for

A digit is a character that is, in lower case, the character of its value.  A numeral is a text of
digits, at least one, and stands for the number with these digits.

## Main definitions

- `Text.IsDigit`, `Text.Numeral`: a digit and its value, a text of digits and its number
- `Text.SignedNumeral`: a plus sign may stand in front of the digits
- `Text.IntegerText`: an integer as it is written

## Main statements

- `digit?_eq_some_iff`: a digit is read as its value
- `unsigned?_eq_some_iff`: a numeral is read as its number if the number is in range
-/

namespace ShaderConformance

namespace Text

/-! ## Digits -/

/-- Characters are ordered as their numbers. -/
theorem le_iff_toNat {c d : Char} : c ≤ d ↔ c.toNat ≤ d.toNat := Iff.rfl

/-- Only the capital letters have another character in lower case. -/
theorem toNat_toLower (c : Char) :
    c.toLower.toNat = if 'A' ≤ c ∧ c ≤ 'Z' then c.toNat + 32 else c.toNat := by
  by_cases h : 'A' ≤ c ∧ c ≤ 'Z'
  · have hlower : c.toLower.toNat = (c.val + 32).toNat := congrArg Char.toNat (dif_pos h)
    have hle : c.toNat ≤ 'Z'.toNat := h.2
    rw [if_pos h, hlower, UInt32.toNat_add]
    exact Nat.mod_eq_of_lt (Nat.lt_of_le_of_lt (Nat.add_le_add_right hle 32) (by decide))
  · have hsame : c.toLower = c := dif_neg h
    rw [if_neg h, hsame]

/-- Digits up to nine stand before the letters. -/
theorem toNat_digitChar {d : Nat} (h : d < 16) :
    (Nat.digitChar d).toNat = if d < 10 then 48 + d else 87 + d := by
  revert d
  decide

/-- The characters of the digits, by their numbers. -/
theorem toLower_eq_digitChar_iff {c : Char} {d : Nat} (h : d < 16) :
    c.toLower = Nat.digitChar d ↔
      (if 65 ≤ c.toNat ∧ c.toNat ≤ 90 then c.toNat + 32 else c.toNat) =
        if d < 10 then 48 + d else 87 + d := by
  rw [← Char.toNat_inj, toNat_toLower, toNat_digitChar h]
  rfl

/-- A character is a digit with a value below the radix, in either case. -/
structure IsDigit (radix : Nat) (c : Char) (d : Nat) : Prop where
  lt : d < radix
  lower : c.toLower = Nat.digitChar d

/-- A character is a digit if its lower case is the character of that digit. -/
theorem isDigit_iff {radix : Nat} {c : Char} {d : Nat} :
    IsDigit radix c d ↔ d < radix ∧ c.toLower = Nat.digitChar d :=
  ⟨fun h => ⟨h.lt, h.lower⟩, fun h => ⟨h.1, h.2⟩⟩

/-- A digit is read if it is one of the radix. -/
theorem digit?_eq_some_iff {radix : Nat} (hradix : radix ≤ 16) {c : Char} {d : Nat} :
    digit? radix c = some d ↔ IsDigit radix c d := by
  have hvalue : digit? radix c = some d ↔ d < radix ∧
      (if 48 ≤ c.toNat ∧ c.toNat ≤ 57 then some (c.toNat - 48)
        else if 97 ≤ c.toNat ∧ c.toNat ≤ 122 then some (c.toNat - 97 + 10)
        else if 65 ≤ c.toNat ∧ c.toNat ≤ 90 then some (c.toNat - 65 + 10)
        else none) = some d := by
    rw [digit?, Option.filter_eq_some_iff, decide_eq_true_eq, and_comm]
    rfl
  rw [hvalue, isDigit_iff]
  refine and_congr_right fun hd => ?_
  rw [toLower_eq_digitChar_iff (by omega)]
  -- The ranges of the characters are told apart by their numbers.
  grind

/-- What counts as a digit of a decimal. -/
theorem IsDigit.isDigit {c : Char} {d : Nat} (h : IsDigit 10 c d) : c.isDigit = true := by
  have hlt := h.lt
  have hlower := (toLower_eq_digitChar_iff (by omega)).mp h.lower
  rw [Char.isDigit_iff_toNat]
  grind

/-- A plus sign is no digit. -/
theorem not_isDigit_plus {radix d : Nat} (hradix : radix ≤ 16) : ¬ IsDigit radix '+' d := by
  rw [← digit?_eq_some_iff hradix]
  nofun

/-! ## Numerals -/

/-- A text of digits, at least one, stands for the number with these digits. -/
def Numeral (radix : Nat) (s : Text) (n : Nat) : Prop :=
  ∃ ds, ds ≠ [] ∧ List.Forall₂ (IsDigit radix) s ds ∧ n = Nat.ofDigits radix ds.reverse

/-- A plus sign may stand in front of a numeral. -/
inductive SignedNumeral (radix : Nat) : Text → Nat → Prop
  | plain {s n} (h : Numeral radix s n) : SignedNumeral radix s n
  | plus {s n} (h : Numeral radix s n) : SignedNumeral radix ('+' :: s) n

section Numerals

variable {radix bound n : Nat} {s : Text}

/-- The value read so far is one more digit in front of the others. -/
theorem digitsOnto?_eq_some_iff (hradix : radix ≤ 16) {value : Nat} :
    digitsOnto? radix value s = some n ↔
      ∃ ds, List.Forall₂ (IsDigit radix) s ds ∧ n = Nat.ofDigits radix (ds.reverse ++ [value]) := by
  induction s generalizing value with
  | nil => simp [digitsOnto?, eq_comm (a := value)]
  | cons c s ih =>
    -- The value so far is the most significant digit of what is read.
    have hvalue (d : Nat) (ds : List Nat) :
        Nat.ofDigits radix (ds.reverse ++ [value * radix + d]) =
          Nat.ofDigits radix ((d :: ds).reverse ++ [value]) := by
      rw [List.reverse_cons, List.append_assoc, Nat.ofDigits_append, Nat.ofDigits_append]
      simp only [List.singleton_append, Nat.ofDigits_cons, Nat.ofDigits_nil]
      ring
    simp only [digitsOnto?, Option.bind_eq_some_iff, digit?_eq_some_iff hradix, ih,
      List.forall₂_cons_left_iff]
    constructor
    · rintro ⟨d, hd, ds, hds, rfl⟩
      exact ⟨d :: ds, ⟨d, ds, hd, hds, rfl⟩, hvalue d ds⟩
    · rintro ⟨_, ⟨d, ds, hd, hds, rfl⟩, rfl⟩
      exact ⟨d, hd, ds, hds, (hvalue d ds).symm⟩

theorem Numeral.ne_nil (h : Numeral radix s n) : s ≠ [] := by
  obtain ⟨ds, hne, hds, -⟩ := h
  rintro rfl
  exact hne (List.forall₂_nil_left_iff.mp hds)

/-- Digits are read as the numeral that they are. -/
theorem digits?_eq_some_iff (hradix : radix ≤ 16) :
    digits? radix s = some n ↔ Numeral radix s n := by
  have hzero (ds : List Nat) :
      Nat.ofDigits radix (ds.reverse ++ [0]) = Nat.ofDigits radix ds.reverse := by
    rw [Nat.ofDigits_append, Nat.ofDigits_singleton, Nat.mul_zero, Nat.add_zero]
  cases s with
  | nil => exact iff_of_false nofun fun h => h.ne_nil rfl
  | cons c s =>
    have hdigits : digits? radix (c :: s) = digitsOnto? radix 0 (c :: s) := rfl
    rw [hdigits, digitsOnto?_eq_some_iff hradix]
    simp only [hzero]
    constructor
    · rintro ⟨ds, hds, hn⟩
      refine ⟨ds, ?_, hds, hn⟩
      rintro rfl
      cases hds
    · rintro ⟨ds, -, hds, hn⟩
      exact ⟨ds, hds, hn⟩

/-- Every character of a numeral is a digit. -/
theorem Numeral.exists_isDigit (h : Numeral radix s n) : ∀ c ∈ s, ∃ d, IsDigit radix c d := by
  obtain ⟨ds, -, hds, -⟩ := h
  induction hds with
  | nil => exact nofun
  | cons hd _ ih => exact List.forall_mem_cons.mpr ⟨⟨_, hd⟩, ih⟩

/-- Every character of a decimal numeral is a decimal digit. -/
theorem Numeral.isDigit (h : Numeral 10 s n) : ∀ c ∈ s, c.isDigit = true := by
  intro c hc
  obtain ⟨d, hd⟩ := h.exists_isDigit c hc
  exact hd.isDigit

/-- A numeral begins with no sign. -/
theorem not_numeral_plus (hradix : radix ≤ 16) : ¬ Numeral radix ('+' :: s) n := by
  intro h
  obtain ⟨d, hd⟩ := h.exists_isDigit '+' List.mem_cons_self
  exact not_isDigit_plus hradix hd

/-- There is nothing but digits and the sign. -/
theorem SignedNumeral.eq_plus_or (h : SignedNumeral radix s n) :
    ∀ c ∈ s, c = '+' ∨ ∃ d, IsDigit radix c d := by
  cases h with
  | plain h => exact fun c hc => Or.inr (h.exists_isDigit c hc)
  | plus h =>
    exact List.forall_mem_cons.mpr ⟨Or.inl rfl, fun c hc => Or.inr (h.exists_isDigit c hc)⟩

/-- Nothing but digits and a plus sign is in a numeral with a sign. -/
theorem SignedNumeral.not_mem {c : Char} (hradix : radix ≤ 16) (h : SignedNumeral radix s n)
    (hplus : c ≠ '+') (hdigit : digit? radix c = none) : c ∉ s := by
  intro hc
  obtain heq | ⟨d, hd⟩ := h.eq_plus_or c hc
  · exact hplus heq
  · rw [← digit?_eq_some_iff hradix, hdigit] at hd
    cases hd

/-- Without its plus sign, a numeral with a sign is a numeral. -/
theorem numeral_dropPlus_iff (hradix : radix ≤ 16) :
    Numeral radix (dropPlus s) n ↔ SignedNumeral radix s n := by
  unfold dropPlus
  split
  · constructor
    · exact .plus
    · rintro (h | h)
      · exact absurd h (not_numeral_plus hradix)
      · exact h
  · rename_i hplus
    constructor
    · exact .plain
    · rintro (h | h)
      · exact h
      · exact absurd rfl (hplus _)

/-- A number is read if it is a numeral with a sign below the bound. -/
theorem unsigned?_eq_some_iff (hradix : radix ≤ 16) :
    unsigned? radix bound s = some n ↔ SignedNumeral radix s n ∧ n < bound := by
  rw [unsigned?, Option.filter_eq_some_iff, decide_eq_true_eq, digits?_eq_some_iff hradix,
    numeral_dropPlus_iff hradix]

/-- A numeral with a sign is read if it is below the bound. -/
theorem unsigned?_of_signedNumeral (hradix : radix ≤ 16) (h : SignedNumeral radix s n) :
    unsigned? radix bound s = if n < bound then some n else none := by
  split
  · rename_i hlt
    exact (unsigned?_eq_some_iff hradix).mpr ⟨h, hlt⟩
  · rename_i hle
    have hread : unsigned? radix (n + 1) s = some n :=
      (unsigned?_eq_some_iff hradix).mpr ⟨h, Nat.lt_succ_self n⟩
    obtain ⟨hdigits, -⟩ := Option.filter_eq_some_iff.mp hread
    rw [unsigned?, hdigits, Option.filter_some_neg (by simpa using hle)]

end Numerals

/-! ## Integers -/

/-- An integer as it is written: in decimal, with a minus sign or without, or in hexadecimal behind
    `0x` or `0X`. -/
inductive IntegerText : Text → Int → Prop
  | decimal {s n} (h : SignedNumeral 10 s n) : IntegerText s n
  | hexadecimal {x s n} (hx : x = 'x' ∨ x = 'X') (h : SignedNumeral 16 s n) :
    IntegerText ('0' :: x :: s) n
  | negative {s n} (h : SignedNumeral 10 s n) : IntegerText ('-' :: s) (-n)

section Integers

variable {s : Text} {v : Int} {n : Nat}

/-- A decimal numeral is a word if it fits. -/
theorem uint32?_of_signedNumeral (h : SignedNumeral 10 s n) :
    uint32? s = if n < UInt32.size then some (UInt32.ofNat n) else none := by
  rw [uint32?, unsigned?_of_signedNumeral (by decide) h]
  split <;> rfl

/-- What has no prefix is read in decimal. -/
theorem hexDigits?_of_not_mem (hx : 'x' ∉ s) (hX : 'X' ∉ s) : hexDigits? s = none := by
  unfold hexDigits?
  split
  · exact absurd (by simp) hx
  · exact absurd (by simp) hX
  · rfl

theorem uint32Literal?_of_decimal (h : SignedNumeral 10 s n) :
    uint32Literal? s = if n < UInt32.size then some (UInt32.ofNat n) else none := by
  have hx : 'x' ∉ s := h.not_mem (by decide) (by decide) rfl
  have hX : 'X' ∉ s := h.not_mem (by decide) (by decide) rfl
  rw [uint32Literal?, hexDigits?_of_not_mem hx hX, ← uint32?_of_signedNumeral h]

/-- A hexadecimal numeral behind its mark is a word if it fits. -/
theorem uint32Literal?_of_hexadecimal {x : Char} (hx : x = 'x' ∨ x = 'X')
    (h : SignedNumeral 16 s n) : uint32Literal? ('0' :: x :: s) =
      if n < UInt32.size then some (UInt32.ofNat n) else none := by
  have hhex : hexDigits? ('0' :: x :: s) = some s := by
    obtain rfl | rfl := hx <;> rfl
  rw [uint32Literal?, hhex]
  dsimp only
  rw [unsigned?_of_signedNumeral (by decide) h]
  split <;> rfl

/-- What is read as a word is a decimal numeral. -/
theorem exists_of_uint32? {w : UInt32} (h : uint32? s = some w) : ∃ n, SignedNumeral 10 s n := by
  obtain ⟨n, hn, -⟩ := Option.map_eq_some_iff.mp h
  exact ⟨n, ((unsigned?_eq_some_iff (by decide)).mp hn).1⟩

/-- What is read as a literal is an integer. -/
theorem exists_of_uint32Literal? {w : UInt32} (h : uint32Literal? s = some w) :
    ∃ v, IntegerText s v := by
  unfold uint32Literal? at h
  split at h
  · rename_i hex hhex
    obtain ⟨n, hn, -⟩ := Option.map_eq_some_iff.mp h
    obtain ⟨hnumeral, -⟩ := (unsigned?_eq_some_iff (by decide)).mp hn
    unfold hexDigits? at hhex
    split at hhex
    · cases hhex
      exact ⟨n, .hexadecimal (Or.inl rfl) hnumeral⟩
    · cases hhex
      exact ⟨n, .hexadecimal (Or.inr rfl) hnumeral⟩
    · cases hhex
  · obtain ⟨n, hn⟩ := exists_of_uint32? h
    exact ⟨n, .decimal hn⟩

end Integers

end Text

end ShaderConformance
