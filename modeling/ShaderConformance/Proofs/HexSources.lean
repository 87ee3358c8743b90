import Mathlib.Algebra.Group.Nat.Even
import ShaderConformance.Proofs.Numerals
import ShaderConformance.Proofs.Results
import ShaderConformance.Shader.Hex

/-!
# Hexadecimal sources

A byte is written with two digits, the high half first, each of them in either case, and blanks may
stand anywhere.  These texts are decoded, each to the bytes that it is written for, and no others
are.

## Main definitions

- `Text.solid`: a text without its blanks
- `Text.Scattered`: blanks are put into a text
- `hexDigits`, `HexWritten`: the digits of some bytes, and the texts that are written for them

## Main statements

- `decodeHex_eq_ok_iff`: a text is decoded if it is, in lower case, the digits of some bytes
- `decodeHex_exact`: which texts are decoded, to what, and which of them alike
-/

namespace ShaderConformance

open Text

/-! ## Texts of digits -/

/-- A text without its blanks. -/
def Text.solid (s : Text) : Text := s.filter (!isBlank ·)

/-- The hexadecimal digits, in either case. -/
def Text.IsHexDigit (c : Char) : Prop :=
  ('0' ≤ c ∧ c ≤ '9') ∨ ('a' ≤ c ∧ c ≤ 'f') ∨ ('A' ≤ c ∧ c ≤ 'F')

/-- A second text is a first one with blanks put in anywhere. -/
inductive Text.Scattered : Text → Text → Prop
  | nil : Scattered [] []
  | blank {b s s'} (hb : isBlank b = true) (h : Scattered s s') : Scattered s (b :: s')
  | keep {s s'} (c : Char) (h : Scattered s s') : Scattered (c :: s) (c :: s')

section Texts

variable {c : Char} {s digits : Text}

/-- What is solid of a text is scattered in it. -/
theorem scattered_solid (s : Text) : Scattered (solid s) s := by
  induction s with
  | nil => exact .nil
  | cons c s ih =>
    cases hc : isBlank c with
    | true =>
      rw [solid, List.filter_cons_of_neg (by simp [hc])]
      exact .blank hc ih
    | false =>
      rw [solid, List.filter_cons_of_pos (by simp [hc])]
      exact .keep c ih

/-- What is scattered without blanks is what is solid. -/
theorem Text.Scattered.solid_eq (h : Scattered digits s)
    (hsolid : ∀ c ∈ digits, isBlank c = false) : solid s = digits := by
  induction h with
  | nil => rfl
  | blank hb _ ih =>
    rw [solid, List.filter_cons_of_neg (by simp [hb])]
    exact ih hsolid
  | keep c _ ih =>
    obtain ⟨hc, hdigits⟩ := List.forall_mem_cons.mp hsolid
    rw [solid, List.filter_cons_of_pos (by simp [hc])]
    exact congrArg (c :: ·) (ih hdigits)

/-- An upper case letter is thirty-two below its lower case. -/
theorem toNat_toUpper (c : Char) :
    c.toUpper.toNat = if 'a' ≤ c ∧ c ≤ 'z' then c.toNat - 32 else c.toNat := by
  by_cases h : 'a' ≤ c ∧ c ≤ 'z'
  · -- The difference to the small letters wraps around.
    have hrange : 'a'.val ≤ c.val ∧ c.val ≤ 'z'.val := h
    have hupper : c.toUpper.val = c.val + ('A'.val - 'a'.val) := by
      delta Char.toUpper
      rw [dif_pos hrange]
    have hle : c.toNat ≤ 'z'.toNat := h.2
    have hge : 'a'.toNat ≤ c.toNat := h.1
    rw [if_pos h, ← Char.toNat_val, hupper, UInt32.toNat_add, Char.toNat_val]
    simp only [Char.reduceVal, Char.reduceToNat, UInt32.reduceSub, UInt32.reduceToNat] at hle hge ⊢
    omega
  · have hsame : c.toUpper = c := dif_neg h
    rw [if_neg h, hsame]

/-- A character is its own lower case, or the upper case of that. -/
theorem eq_toLower_or (c : Char) : c = c.toLower ∨ c = c.toLower.toUpper := by
  simp only [← Char.toNat_inj, toNat_toUpper, toNat_toLower, le_iff_toNat, Char.reduceToNat]
  grind

/-- A digit stands for a number below sixteen, in either case. -/
theorem isHexDigit_iff : IsHexDigit c ↔ ∃ d < 16, c.toLower = Nat.digitChar d := by
  constructor
  · intro h
    simp only [IsHexDigit, le_iff_toNat, Char.reduceToNat] at h
    obtain h | h | h := h
    · exact ⟨c.toNat - 48, by omega, (toLower_eq_digitChar_iff (by omega)).mpr (by grind)⟩
    · exact ⟨c.toNat - 87, by omega, (toLower_eq_digitChar_iff (by omega)).mpr (by grind)⟩
    · exact ⟨c.toNat - 55, by omega, (toLower_eq_digitChar_iff (by omega)).mpr (by grind)⟩
  · rintro ⟨d, hd, hlower⟩
    rw [toLower_eq_digitChar_iff hd] at hlower
    simp only [IsHexDigit, le_iff_toNat, Char.reduceToNat]
    grind

/-- A digit is no blank. -/
theorem isBlank_of_isHexDigit (h : IsHexDigit c) : isBlank c = false := by
  simp only [IsHexDigit, le_iff_toNat, Char.reduceToNat] at h
  simp [isBlank]
  omega

/-- A digit is written in either case. -/
theorem eq_or_toUpper_iff {d : Nat} (h : d < 16) :
    c = Nat.digitChar d ∨ c = (Nat.digitChar d).toUpper ↔ c.toLower = Nat.digitChar d := by
  constructor
  · have hlower : (Nat.digitChar d).toLower = Nat.digitChar d ∧
        (Nat.digitChar d).toUpper.toLower = Nat.digitChar d := by
      revert d
      decide
    rintro (rfl | rfl)
    · exact hlower.1
    · exact hlower.2
  · intro hlower
    rw [← hlower]
    exact eq_toLower_or c

end Texts

namespace Shader

/-- The two digits of a byte, the high one first. -/
def halves (b : UInt8) : List UInt8 := [b / 16, b % 16]

/-- The digits of some bytes, in lower case. -/
def hexDigits (bytes : List UInt8) : Text :=
  (bytes.flatMap halves).map fun d => Nat.digitChar d.toNat

/-- A text is written for some bytes if it has their digits, each in either case, with blanks put in
    anywhere. -/
def HexWritten (bytes : List UInt8) (s : Text) : Prop :=
  ∃ digits, List.Forall₂ (fun c d => c = d ∨ c = d.toUpper) digits (hexDigits bytes) ∧
    Scattered digits s

section Digits

variable {c : Char} {d : UInt8} {s : Text} {ds bytes : List UInt8}

theorem hexDigits_cons (b : UInt8) (bytes : List UInt8) : hexDigits (b :: bytes) =
    Nat.digitChar (b / 16).toNat :: Nat.digitChar (b % 16).toNat :: hexDigits bytes := rfl

/-- Bytes have twice as many digits. -/
theorem length_hexDigits (bytes : List UInt8) : (hexDigits bytes).length = 2 * bytes.length := by
  induction bytes with
  | nil => rfl
  | cons b bytes ih =>
    rw [hexDigits_cons, List.length_cons, List.length_cons, ih, List.length_cons]
    omega

/-- Half of a byte is below sixteen. -/
theorem toNat_halves_lt (h : d ∈ bytes.flatMap halves) : d.toNat < 16 := by
  obtain ⟨b, -, hd⟩ := List.mem_flatMap.mp h
  have hb : b.toNat < 256 := b.toNat_lt
  obtain rfl | hd := List.mem_cons.mp hd
  · rw [UInt8.toNat_div]
    exact Nat.div_lt_of_lt_mul hb
  · obtain rfl := List.mem_singleton.mp hd
    rw [UInt8.toNat_mod]
    exact Nat.mod_lt _ (by decide)

/-- The halves of a byte give the byte, and no others do. -/
theorem join_eq_iff {high low b : UInt8} (hhigh : high.toNat < 16) (hlow : low.toNat < 16) :
    high * 16 + low = b ↔ high = b / 16 ∧ low = b % 16 := by
  have hb : b.toNat < 256 := b.toNat_lt
  simp only [← UInt8.toNat_inj, UInt8.toNat_add, UInt8.toNat_mul, UInt8.toNat_div, UInt8.toNat_mod,
    UInt8.reduceToNat]
  omega

/-- Digits are valued one by one. -/
theorem digitValues_cons_iff : digitValues (c :: s) = .ok ds ↔
    ∃ d more, digit? 16 c = some d.toNat ∧ digitValues s = .ok more ∧ d :: more = ds := by
  rw [digitValues]
  cases hdigit : digit? 16 c with
  | none => simp
  | some value =>
    have hvalue : value < UInt8.size :=
      Nat.lt_trans ((digit?_eq_some_iff (Nat.le_refl 16)).mp hdigit).lt (by decide)
    have hbyte (d : UInt8) : value = d.toNat ↔ UInt8.ofNat value = d := by
      rw [← UInt8.toNat_inj, UInt8.toNat_ofNat_of_lt' hvalue]
    simp only [map_eq_ok_iff, Option.some.injEq, hbyte]
    constructor
    · rintro ⟨more, hmore, rfl⟩
      exact ⟨_, more, rfl, hmore, rfl⟩
    · rintro ⟨_, more, rfl, hmore, rfl⟩
      exact ⟨more, hmore, rfl⟩

/-- The values are those of the digits in lower case. -/
theorem digitValues_eq_ok_iff : digitValues s = .ok ds ↔
    (∀ d ∈ ds, d.toNat < 16) ∧ s.map Char.toLower = ds.map fun d => Nat.digitChar d.toNat := by
  induction s generalizing ds with
  | nil => cases ds <;> simp [digitValues]
  | cons c s ih =>
    -- Reading one digit ignores its case, so only its lower form is compared.
    have hdigit (d : UInt8) : digit? 16 c = some d.toNat ↔
        d.toNat < 16 ∧ c.toLower = Nat.digitChar d.toNat := by
      rw [digit?_eq_some_iff (Nat.le_refl 16), isDigit_iff]
    rw [digitValues_cons_iff]
    constructor
    · rintro ⟨d, more, hd, hmore, rfl⟩
      obtain ⟨hlt, hlower⟩ := (hdigit d).mp hd
      obtain ⟨hall, hmap⟩ := ih.mp hmore
      exact ⟨List.forall_mem_cons.mpr ⟨hlt, hall⟩, List.cons_eq_cons.mpr ⟨hlower, hmap⟩⟩
    · rintro ⟨hall, hmap⟩
      cases ds with
      | nil => cases hmap
      | cons d more =>
        obtain ⟨hlt, hall⟩ := List.forall_mem_cons.mp hall
        obtain ⟨hlower, hmap⟩ := List.cons.inj hmap
        exact ⟨d, more, (hdigit d).mpr ⟨hlt, hlower⟩, ih.mpr ⟨hall, hmap⟩, rfl⟩

/-- Digits make bytes if they are the halves of bytes. -/
theorem bytesOfDigits_eq_ok_iff (hds : ∀ d ∈ ds, d.toNat < 16) :
    bytesOfDigits ds = .ok bytes ↔ ds = bytes.flatMap halves := by
  fun_induction bytesOfDigits ds generalizing bytes with
  | case1 =>
    cases bytes with
    | nil => simp
    | cons b bytes => simp [halves]
  -- A digit left over is refused, and no list of bytes has an odd number of halves.
  | case2 d =>
    cases bytes with
    | nil => simp
    | cons b bytes => simp [halves]
  | case3 high low digits ih =>
    obtain ⟨hhigh, hrest⟩ := List.forall_mem_cons.mp hds
    obtain ⟨hlow, hdigits⟩ := List.forall_mem_cons.mp hrest
    simp only [map_eq_ok_iff, ih hdigits]
    cases bytes with
    | nil => simp
    | cons b bytes =>
      simp only [halves, List.flatMap_cons, List.cons_append, List.nil_append, List.cons.injEq]
      constructor
      · rintro ⟨result, hresult, hb, rfl⟩
        obtain ⟨hfirst, hsecond⟩ := (join_eq_iff hhigh hlow).mp hb
        exact ⟨hfirst, hsecond, hresult⟩
      · rintro ⟨hfirst, hsecond, hresult⟩
        exact ⟨bytes, hresult, (join_eq_iff hhigh hlow).mpr ⟨hfirst, hsecond⟩, rfl⟩

/-- A text is decoded if it is, without blanks and in lower case, the digits of some bytes. -/
theorem decodeHex_eq_ok_iff :
    decodeHex s = .ok bytes ↔ (solid s).map Char.toLower = hexDigits bytes := by
  have hbind : decodeHex s = .ok bytes ↔
      ∃ ds, digitValues (solid s) = .ok ds ∧ bytesOfDigits ds = .ok bytes := bind_eq_ok_iff
  rw [hbind]
  constructor
  · rintro ⟨ds, hvalues, hbytes⟩
    obtain ⟨hds, hmap⟩ := digitValues_eq_ok_iff.mp hvalues
    obtain rfl := (bytesOfDigits_eq_ok_iff hds).mp hbytes
    exact hmap
  · intro hmap
    have hds : ∀ d ∈ bytes.flatMap halves, d.toNat < 16 := fun _ => toNat_halves_lt
    exact ⟨_, digitValues_eq_ok_iff.mpr ⟨hds, hmap⟩, (bytesOfDigits_eq_ok_iff hds).mpr rfl⟩

end Digits

/-! ## How bytes are written -/

section Written

variable {c : Char} {s digits : Text} {bytes : List UInt8}

/-- The digits of bytes are digits below sixteen. -/
theorem exists_of_mem_hexDigits (h : c ∈ hexDigits bytes) : ∃ d < 16, c = Nat.digitChar d := by
  obtain ⟨d, hd, rfl⟩ := List.mem_map.mp h
  exact ⟨d.toNat, toNat_halves_lt hd, rfl⟩

/-- What stands for the digits of bytes is made of digits. -/
theorem isHexDigit_of_mem (hmap : s.map Char.toLower = hexDigits bytes) (hmem : c ∈ s) :
    IsHexDigit c := by
  have hlower : c.toLower ∈ hexDigits bytes := hmap ▸ List.mem_map_of_mem hmem
  exact isHexDigit_iff.mpr (exists_of_mem_hexDigits hlower)

/-- The digits, two by two, are those of some bytes. -/
theorem exists_hexDigits : ∀ {s : Text}, Even s.length → (∀ c ∈ s, IsHexDigit c) →
    ∃ bytes, s.map Char.toLower = hexDigits bytes
  | [], _, _ => ⟨[], rfl⟩
  | [_], heven, _ => absurd heven Nat.not_even_one
  | c :: c' :: s, heven, hdigits => by
    obtain ⟨hc, hrest⟩ := List.forall_mem_cons.mp hdigits
    obtain ⟨hc', hs⟩ := List.forall_mem_cons.mp hrest
    have hlength : Even s.length := by
      simpa only [List.length_cons, Nat.even_add_one, not_not] using heven
    obtain ⟨bytes, hbytes⟩ := exists_hexDigits hlength hs
    obtain ⟨high, hhigh, hfirst⟩ := isHexDigit_iff.mp hc
    obtain ⟨low, hlow, hsecond⟩ := isHexDigit_iff.mp hc'
    refine ⟨UInt8.ofNat (16 * high + low) :: bytes, ?_⟩
    have hbyte : (UInt8.ofNat (16 * high + low)).toNat = 16 * high + low :=
      UInt8.toNat_ofNat_of_lt' (by simp only [UInt8.size]; omega)
    have hdiv : (16 * high + low) / 16 = high := by omega
    have hmod : (16 * high + low) % 16 = low := by omega
    have hsixteen : (16 : UInt8).toNat = 16 := rfl
    rw [List.map_cons, List.map_cons, hfirst, hsecond, hbytes, hexDigits_cons, UInt8.toNat_div,
      UInt8.toNat_mod, hbyte, hsixteen, hdiv, hmod]

/-- Each digit may have either case. -/
theorem forall₂_case_iff {lower : Text} (h : ∀ k ∈ lower, ∃ d < 16, k = Nat.digitChar d) :
    List.Forall₂ (fun c k => c = k ∨ c = k.toUpper) digits lower ↔
      digits.map Char.toLower = lower := by
  rw [← List.forall₂_eq_eq_eq, List.forall₂_map_left_iff]
  induction lower generalizing digits with
  | nil => simp
  | cons k lower ih =>
    obtain ⟨⟨d, hd, rfl⟩, hlower⟩ := List.forall_mem_cons.mp h
    simp only [List.forall₂_cons_right_iff, eq_or_toUpper_iff hd, ih hlower]

/-- Bytes are written by their digits in either case, with blanks anywhere. -/
theorem hexWritten_iff :
    HexWritten bytes s ↔ (solid s).map Char.toLower = hexDigits bytes := by
  have hcase (digits : Text) : List.Forall₂ (fun c k => c = k ∨ c = k.toUpper) digits
      (hexDigits bytes) ↔ digits.map Char.toLower = hexDigits bytes :=
    forall₂_case_iff fun _ => exists_of_mem_hexDigits
  simp only [HexWritten, hcase]
  constructor
  · rintro ⟨digits, hmap, hscattered⟩
    rwa [hscattered.solid_eq fun c hc => isBlank_of_isHexDigit (isHexDigit_of_mem hmap hc)]
  · intro hmap
    exact ⟨solid s, hmap, scattered_solid s⟩

/-- A text is decoded if it has an even number of digits and nothing else. -/
theorem exists_decodeHex_iff : (∃ bytes, decodeHex s = .ok bytes) ↔
    Even (solid s).length ∧ ∀ c ∈ solid s, IsHexDigit c := by
  simp only [decodeHex_eq_ok_iff]
  constructor
  · rintro ⟨bytes, hmap⟩
    have hlength : (solid s).length = 2 * bytes.length := by
      rw [← length_hexDigits, ← hmap, List.length_map]
    exact ⟨hlength ▸ even_two_mul bytes.length, fun _ => isHexDigit_of_mem hmap⟩
  · rintro ⟨heven, hdigits⟩
    exact exists_hexDigits heven hdigits

/-- A text is decoded if, but for blanks, it is made of hexadecimal digits, an even number of them.
    It is decoded to the bytes that it is written for.  Two texts are decoded alike if they are the
    same but for blanks and for the case of the digits. -/
theorem decodeHex_exact :
    (∀ s, (∃ bytes, decodeHex s = .ok bytes) ↔
      Even (solid s).length ∧ ∀ c ∈ solid s, IsHexDigit c) ∧
    (∀ bytes s, decodeHex s = .ok bytes ↔ HexWritten bytes s) ∧
    ∀ s s' bytes bytes', decodeHex s = .ok bytes → decodeHex s' = .ok bytes' →
      (bytes = bytes' ↔ (solid s).map Char.toLower = (solid s').map Char.toLower) := by
  refine ⟨fun _ => exists_decodeHex_iff,
    fun _ _ => decodeHex_eq_ok_iff.trans hexWritten_iff.symm, ?_⟩
  intro s s' bytes bytes' h h'
  have hlower := decodeHex_eq_ok_iff.mp h
  have hlower' := decodeHex_eq_ok_iff.mp h'
  constructor
  · rintro rfl
    rw [hlower, hlower']
  · intro heq
    -- The second text is decoded to the bytes of the first one too.
    have hsame : decodeHex s' = .ok bytes := decodeHex_eq_ok_iff.mpr (heq.symm.trans hlower)
    exact Except.ok.inj (hsame.symm.trans h')

/-- A blank may stand between the digits of a byte. -/
example : decodeHex "0a \u00a0F\n0".toList = .ok [10, 240] := by decide

end Written

end Shader

end ShaderConformance
