import Mathlib.Data.List.Forall2
import ShaderConformance.Command.Reading
import ShaderConformance.Probe.Basic
import ShaderConformance.Proofs.Codecs
import ShaderConformance.Proofs.Words

/-!
# Kinds of values

Uniforms and probes name the types of their values differently, and read and decode them in
different places.  There are six kinds of values that both have.

## Main definitions

- `ValueKind`: the kinds of values, with their names and readers, and with how they are kept
- `ValueKind.CanHold`: contents from which values of a kind are read as they are kept

## Main statements

- `UniformType.all_eq`: the types of uniforms are the kinds with their numbers of components
- `ValueKind.value_pack`: a probe reads the values that a uniform reads
- `ValueKind.probeTexel_eq_none_iff`: when a texel is as expected
-/

namespace ShaderConformance

open Text

/-- The kinds of values that uniforms and probes have in common. -/
inductive ValueKind where
  | single
  | int32
  | uint32
  | double
  | int64
  | uint64
deriving DecidableEq, Repr

namespace ValueKind

/-- The values of a kind. -/
abbrev Value : ValueKind → Type
  | single => Single
  | int32 => Int32
  | uint32 => UInt32
  | double => Double
  | int64 => Int64
  | uint64 => UInt64

/-- The name of uniforms of one component. -/
def uniformName : ValueKind → String
  | single => "float"
  | int32 => "int"
  | uint32 => "uint"
  | double => "double"
  | int64 => "int64_t"
  | uint64 => "uint64_t"

/-- The name of uniforms of a number of components. -/
def typeName (k : ValueKind) (count : Nat) : String :=
  if count = 1 then k.uniformName else k.uniformName ++ toString count

/-- The name of expected values. -/
def probeName : ValueKind → String
  | single => "f32"
  | int32 => "i32"
  | uint32 => "u32"
  | double => "f64"
  | int64 => "i64"
  | uint64 => "u64"

/-- The largest number of components. -/
def most : ValueKind → Nat
  | single | int32 | uint32 => 4
  | double | int64 | uint64 => 2

/-- Reads a value. -/
def read? : (k : ValueKind) → Text → Option k.Value
  | single => Single.read?
  | int32 => int32Literal?
  | uint32 => uint32Literal?
  | double => Double.read?
  | int64 => int64?
  | uint64 => uint64?

/-- How values are kept in bytes. -/
def codec : (k : ValueKind) → ByteCodec k.Value
  | single => .through .word Single.bits Single.mk (fun _ => rfl) (fun _ => rfl)
  | int32 => .through .word Int32.toUInt32 UInt32.toInt32 Int32.toInt32_toUInt32
      UInt32.toUInt32_toInt32
  | uint32 => .word
  | double => .through .long Double.bits Double.mk (fun _ => rfl) (fun _ => rfl)
  | int64 => .through .long Int64.toUInt64 UInt64.toInt64 Int64.toInt64_toUInt64
      UInt64.toUInt64_toInt64
  | uint64 => .long

/-- Values as an expected value. -/
def pack : (k : ValueKind) → List k.Value → ProbeValue
  | single => .f32
  | int32 => .i32
  | uint32 => .u32
  | double => .f64
  | int64 => .i64
  | uint64 => .u64

/-- Whether two values are near each other. -/
def near : (k : ValueKind) → (steps : UInt32) → k.Value → k.Value → Bool
  | single => Single.within
  | int32 => fun steps a b => ProbeValue.intNear steps a.toInt b.toInt
  | uint32 => fun steps a b => ProbeValue.intNear steps a.toNat b.toNat
  | double => Double.within
  | int64 => fun steps a b => ProbeValue.intNear steps a.toInt b.toInt
  | uint64 => fun steps a b => ProbeValue.intNear steps a.toNat b.toNat

/-- Whether the values are integers. -/
def isInteger : ValueKind → Bool
  | single | double => false
  | int32 | uint32 | int64 | uint64 => true

/-- Every kind, in the order of the types of uniforms. -/
def all : List ValueKind := [single, int32, uint32, double, int64, uint64]

/-- The type of uniforms of a kind with a number of components. -/
def uniformType (k : ValueKind) (count : Nat) : UniformType where
  name := k.typeName count
  count := count
  read? word := (k.read? word).map k.codec.bytes

end ValueKind

/-- The types of uniforms are the kinds with their numbers of components. -/
theorem UniformType.all_eq : UniformType.all = ValueKind.all.flatMap fun k =>
    (List.range k.most).map fun i => k.uniformType (i + 1) := rfl

/-- Every type of uniforms is that of a kind of values and a number of them. -/
theorem UniformType.exists_kind {t : UniformType} (h : t ∈ UniformType.all) :
    ∃ k n, 1 ≤ n ∧ n ≤ k.most ∧ t = ValueKind.uniformType k n := by
  rw [UniformType.all_eq] at h
  obtain ⟨k, -, hk⟩ := List.mem_flatMap.mp h
  obtain ⟨i, hi, rfl⟩ := List.mem_map.mp hk
  exact ⟨k, i + 1, Nat.le_add_left 1 i, List.mem_range.mp hi, rfl⟩

namespace ValueKind

variable {k : ValueKind} {vs : List Text} {xs : List k.Value}

/-! ## Reading -/

/-- A value is written with characters of numbers. -/
theorem isNumeral_of_read? {v : Text} {x : k.Value} (h : k.read? v = some x) : v.IsNumeral := by
  cases k with
  | single => exact Single.isNumeral_of_read? h
  | int32 => exact isNumeral_of_int32Literal? h
  | uint32 => exact isNumeral_of_uint32Literal? h
  | double => exact Double.isNumeral_of_read? h
  | int64 => exact isNumeral_of_int64? h
  | uint64 => exact isNumeral_of_uint64? h

/-- Values are read from words. -/
abbrev Read (k : ValueKind) (vs : List Text) (xs : List k.Value) : Prop :=
  List.Forall₂ (fun v x => k.read? v = some x) vs xs

theorem Read.isNumeral (h : k.Read vs xs) : ∀ v ∈ vs, v.IsNumeral := by
  induction h with
  | nil => exact nofun
  | cons hv _ ih => exact List.forall_mem_cons.mpr ⟨isNumeral_of_read? hv, ih⟩

/-- Values between commas are read one by one. -/
theorem valueFields_eq (h : k.Read vs xs) (kind : String) :
    Probe.valueFields kind k.read? vs = .ok xs := by
  induction h with
  | nil => rfl
  | cons hv _ ih =>
    rw [Probe.valueFields, hv]
    dsimp only
    rw [ih]
    rfl

/-- The words after the type of a uniform, as many as such types have components. -/
structure Says (k : ValueKind) (vs : List Text) (xs : List k.Value) : Prop where
  fewest : 1 ≤ vs.length
  most : vs.length ≤ k.most
  solid : ∀ v ∈ vs, v.IsWord
  read : k.Read vs xs

/-- The value of a probe is read as its kind. -/
theorem value_eq (k : ValueKind) (text : Text) : Probe.value k.probeName.toList text =
    (Probe.values k.probeName k.read? 1 k.most text).map k.pack := by
  cases k <;> rfl

/-- A character that no numeral has is in no word that was read. -/
theorem Says.not_mem (h : k.Says vs xs) {c : Char} (hc : isNumeralChar c = false) :
    ∀ v ∈ vs, c ∉ v := by
  intro v hv hmem
  have hnumeral : isNumeralChar c = true := h.read.isNumeral v hv c hmem
  rw [hc] at hnumeral
  cases hnumeral

/-- A probe reads the values that a uniform reads. -/
theorem value_pack (h : k.Says vs xs) :
    Probe.value k.probeName.toList (commaList vs) = .ok (k.pack xs) := by
  have hne : vs ≠ [] := List.ne_nil_of_length_pos h.fewest
  -- No word has a comma, so the fields are the words again.
  have hfields : fields (commaList vs) = vs :=
    fields_commaList hne h.solid (h.not_mem (by decide))
  have hcount : 1 ≤ xs.length ∧ xs.length ≤ k.most := by
    rw [← h.read.length_eq]
    exact ⟨h.fewest, h.most⟩
  rw [value_eq, Probe.values, hfields, valueFields_eq h.read]
  dsimp only
  rw [if_pos hcount]
  rfl

/-- The values of a probe as they are written. -/
def written (k : ValueKind) (vs : List Text) : Text :=
  k.probeName.toList ++ '(' :: commaList vs ++ [')']

/-- No parenthesis is in the values, so the one behind them closes them. -/
theorem Says.not_mem_commaList (h : k.Says vs xs) : ')' ∉ commaList vs := by
  intro hmem
  obtain hcomma | ⟨v, hv, hmem⟩ := mem_of_mem_commaList hmem
  · revert hcomma
    decide
  · exact h.not_mem (by decide) v hv hmem

/-- The name of a kind is made of characters of words. -/
theorem isWordChar_of_mem_probeName : ∀ c ∈ k.probeName.toList, isWordChar c = true := by
  apply List.all_eq_true.mp
  cases k <;> decide

/-- What stands in brackets ends with the first closing one. -/
theorem group?_parentheses {inner : Text} (h : ')' ∉ inner) (more : Text) :
    Probe.group? ('(' :: (inner ++ ')' :: more)) = some (inner, more) :=
  splitFirst?_append h more

/-- A probe is split at the parentheses around its coordinates and its values. -/
theorem form?_written (h : k.Says vs xs) {coordinates tail : Text} {tolerance : Option Text}
    (hcoordinates : ')' ∉ coordinates) (htail : Probe.tolerance? tail = some tolerance) :
    Probe.form? ('(' :: coordinates ++ ") ".toList ++ k.written vs ++ tail) =
      some ⟨coordinates, k.probeName.toList, commaList vs, tolerance⟩ := by
  have htext : '(' :: coordinates ++ ") ".toList ++ k.written vs ++ tail =
      '(' :: (coordinates ++ ')' :: ' ' :: (k.probeName.toList ++
        '(' :: (commaList vs ++ ')' :: tail))) := by
    simp [written]
  -- The name of the type is one word, and ends at the second parenthesis.
  have htrim : trimStart (' ' :: (k.probeName.toList ++ '(' :: (commaList vs ++ ')' :: tail))) =
      k.probeName.toList ++ '(' :: (commaList vs ++ ')' :: tail) := by
    cases k <;> rfl
  have hstops : Text.Stops isWordChar ('(' :: (commaList vs ++ ')' :: tail)) :=
    stops_cons_iff.mpr (by decide)
  have hnonempty : k.probeName.toList.isEmpty = false := by
    cases k <;> rfl
  rw [htext, Probe.form?, group?_parentheses hcoordinates]
  dsimp only [Option.bind_eq_bind, Option.bind_some]
  rw [htrim, takeWhile_append_of_stops isWordChar_of_mem_probeName hstops,
    dropWhile_append_of_stops isWordChar_of_mem_probeName hstops,
    group?_parentheses h.not_mem_commaList, hnonempty]
  dsimp only [Bool.false_eq_true, if_false, Option.bind_some]
  rw [htail]
  rfl

/-! ## Comparing -/

/-- A value has as many components as were packed. -/
@[simp] theorem length_pack (xs : List k.Value) : (k.pack xs).length = xs.length := by
  cases k <;> rfl

/-- Its components have the size of their kind. -/
@[simp] theorem componentSize_pack (xs : List k.Value) :
    (k.pack xs).componentSize = k.codec.size := by
  cases k <;> rfl

/-- Values of one kind are compared one component after another. -/
theorem matchesWithin_pack (steps : UInt32) (got expected : List k.Value) :
    (k.pack got).matchesWithin steps (k.pack expected) =
      ProbeValue.allNear (k.near steps) got expected := by
  cases k <;> rfl

/-- An integer is near itself. -/
theorem intNear_self (steps : UInt32) (n : Int) : ProbeValue.intNear steps n n = true := by
  simp [ProbeValue.intNear]

/-- Without tolerance an integer is near itself only. -/
theorem eq_of_intNear_zero {a b : Int} (h : ProbeValue.intNear 0 a b = true) : a = b := by
  have hzero : (a - b).natAbs ≤ 0 := of_decide_eq_true h
  omega

/-- A value is near itself. -/
theorem near_self (steps : UInt32) (x : k.Value) : k.near steps x x = true := by
  cases k with
  | single => simp [near, Single.within]
  | int32 => exact intNear_self steps _
  | uint32 => exact intNear_self steps _
  | double => simp [near, Double.within]
  | int64 => exact intNear_self steps _
  | uint64 => exact intNear_self steps _

/-- Without a tolerance only the same integer is near an integer. -/
theorem eq_of_near_zero (hk : k.isInteger = true) {a b : k.Value} (h : k.near 0 a b = true) :
    a = b := by
  cases k with
  | single => cases hk
  | int32 => exact Int32.toInt_inj.mp (eq_of_intNear_zero h)
  | uint32 => exact UInt32.toNat_inj.mp (Int.ofNat_inj.mp (eq_of_intNear_zero h))
  | double => cases hk
  | int64 => exact Int64.toInt_inj.mp (eq_of_intNear_zero h)
  | uint64 => exact UInt64.toNat_inj.mp (Int.ofNat_inj.mp (eq_of_intNear_zero h))

theorem allNear_self (steps : UInt32) (xs : List k.Value) :
    ProbeValue.allNear (k.near steps) xs xs = true := by
  induction xs with
  | nil => rfl
  | cons x xs ih =>
    rw [ProbeValue.allNear, List.zip_cons_cons, List.all_cons, Bool.and_eq_true]
    exact ⟨near_self steps x, ih⟩

/-- As many integers that are near others without a tolerance are those. -/
theorem eq_of_allNear_zero (hk : k.isInteger = true) {got expected : List k.Value}
    (hlength : got.length = expected.length)
    (h : ProbeValue.allNear (k.near 0) got expected = true) : got = expected := by
  induction got generalizing expected with
  | nil => exact (List.length_eq_zero_iff.mp hlength.symm).symm
  | cons x got ih =>
    cases expected with
    | nil => cases hlength
    | cons y expected =>
      rw [ProbeValue.allNear, List.zip_cons_cons, List.all_cons, Bool.and_eq_true] at h
      have hhead : x = y := eq_of_near_zero hk h.1
      have htail : got = expected := ih (Nat.succ.inj hlength) h.2
      rw [hhead, htail]

end ValueKind

/-! ## Decoding -/

namespace Readback

variable (r : Readback) (count : Nat)

/-- Contents without a format, whose elements have room for some words. -/
def HasWords : Prop := r.format = .unknown ∧ 4 * count ≤ r.texelSize

/-- Contents of a format with some components of 32 bits. -/
def HasComponents : Prop := r.format.componentSize = 4 ∧ count ≤ r.format.componentCount.toNat

end Readback

namespace ValueKind

/-- Contents from which some values of a kind are read as they are kept.  Numbers in single
    precision are kept where the components are not integers or fractions, and components of
    64 bits are read from texels of every format. -/
def CanHold : ValueKind → (count : Nat) → Readback → Prop
  | single, count, r => r.HasWords count ∨
      r.HasComponents count ∧
        (r.format.componentType = .float ∨ r.format.componentType = .typeless)
  | int32, count, r | uint32, count, r => r.HasWords count ∨ r.HasComponents count
  | double, count, r | int64, count, r | uint64, count, r => 8 * count ≤ r.texelSize

variable {k : ValueKind} {xs : List k.Value} {r : Readback}

section Decoding

variable {f : Format} {texel : List UInt8}

/-- Values of four bytes are read as words. -/
theorem readSize_eq (h : f = .unknown ∨ f.componentSize = 4) : f.readSize = 4 := by
  obtain rfl | h := h
  · rfl
  · rw [Format.readSize, h]
    rfl

/-- The bits of such a value are a word of the texel. -/
theorem componentBits?_eq (h : f = .unknown ∨ f.componentSize = 4) :
    f.componentBits? texel = ByteCodec.word.at? texel := by
  funext index
  rw [Format.componentBits?, readSize_eq h]
  rfl

/-- An integer of 32 bits needs no extension. -/
theorem componentInteger?_eq (h : f = .unknown ∨ f.componentSize = 4) :
    f.componentInteger? texel = ByteCodec.word.at? texel := by
  have hbits (bits : UInt32) :
      Format.integerOfBits f.componentType f.componentSize.toNat bits = bits := by
    obtain rfl | h := h
    · rfl
    · rw [h]
      cases f.componentType <;> rfl
  funext index
  rw [Format.componentInteger?, componentBits?_eq h]
  cases ByteCodec.word.at? texel index with
  | none => rfl
  | some bits => rw [Option.map_some, hbits]

/-- A number in single precision is its bits. -/
theorem componentNumber?_eq (h : f = .unknown ∨ f.componentSize = 4)
    (htype : f.componentType = .float ∨ f.componentType = .typeless) :
    f.componentNumber? texel = fun i => (ByteCodec.word.at? texel i).map Single.mk := by
  have hdepth : f ≠ .d24UnormS8Uint := by
    rintro rfl
    revert htype
    decide
  have hbits (bits : UInt32) :
      Format.numberOfBits f.componentType f.componentSize.toNat bits = ⟨bits⟩ := by
    obtain rfl | h := h
    · rfl
    · rw [h]
      obtain htype | htype := htype <;> rw [htype] <;> rfl
  funext index
  rw [Format.componentNumber?, componentBits?_eq h]
  cases ByteCodec.word.at? texel index with
  | none => rfl
  | some bits => rw [Option.map_some, if_neg hdepth, hbits, Option.map_some]

/-- The components of a texel are decoded as they are kept. -/
theorem decodeLike?_pack {count : Nat} (h : k.CanHold count r) (xs : List k.Value) :
    (k.pack xs).decodeLike? r.format texel =
      (ProbeValue.components? (k.codec.at? texel) xs.length).map k.pack := by
  cases k with
  | single =>
    -- Contents that can hold such values have words or components of four bytes.
    have hformat : r.format = .unknown ∨ r.format.componentSize = 4 := h.imp And.left (·.1.1)
    have htype : r.format.componentType = .float ∨ r.format.componentType = .typeless := by
      obtain hwords | hcomponents := h
      · rw [hwords.1]
        exact Or.inr rfl
      · exact hcomponents.2
    rw [codec, ByteCodec.components?_through, pack, ProbeValue.decodeLike?,
      componentNumber?_eq hformat htype, ByteCodec.components?_map]
    rfl
  | int32 =>
    have hformat : r.format = .unknown ∨ r.format.componentSize = 4 := h.imp And.left And.left
    rw [codec, ByteCodec.components?_through, Option.map_map, pack, ProbeValue.decodeLike?,
      componentInteger?_eq hformat]
    rfl
  | uint32 =>
    have hformat : r.format = .unknown ∨ r.format.componentSize = 4 := h.imp And.left And.left
    rw [codec, pack, ProbeValue.decodeLike?, componentInteger?_eq hformat]
    rfl
  | double =>
    rw [codec, ByteCodec.components?_through, Option.map_map]
    rfl
  | int64 =>
    rw [codec, ByteCodec.components?_through, Option.map_map]
    rfl
  | uint64 => rfl

end Decoding

/-- A format with components is known. -/
theorem format_ne_unknown {f : Format} (h : f.componentSize = 4) : f ≠ .unknown := by
  rintro rfl
  revert h
  decide

/-- Values are read from contents that can hold them. -/
theorem fits_pack (h : k.CanHold xs.length r) : (k.pack xs).fits r = true := by
  -- Values of four bytes fit words or components, values of eight bytes only the texel's size.
  have hwords (hr : r.HasWords xs.length) (hsize : k.codec.size = 4) :
      (k.pack xs).fits r = true := by
    have hbytes := hr.2
    simp only [ProbeValue.fits, ProbeValue.byteSize, length_pack, componentSize_pack, hsize, hr.1,
      or_true, if_true, decide_eq_true_eq]
    omega
  have hcomponents (hr : r.HasComponents xs.length) (hsize : k.codec.size = 4) :
      (k.pack xs).fits r = true := by
    have hformat := format_ne_unknown hr.1
    simpa [ProbeValue.fits, hsize, hformat] using hr.2
  have hlong (hr : 8 * xs.length ≤ r.texelSize) (hsize : k.codec.size = 8) :
      (k.pack xs).fits r = true := by
    simp only [ProbeValue.fits, ProbeValue.byteSize, length_pack, componentSize_pack, hsize,
      true_or, if_true, decide_eq_true_eq]
    omega
  cases k with
  | single => exact h.elim (hwords · rfl) (hcomponents ·.1 rfl)
  | int32 => exact h.elim (hwords · rfl) (hcomponents · rfl)
  | uint32 => exact h.elim (hwords · rfl) (hcomponents · rfl)
  | double => exact hlong h rfl
  | int64 => exact hlong h rfl
  | uint64 => exact hlong h rfl

/-- A texel is as expected if it begins with as many values that are near the expected
    ones. -/
theorem probeTexel_eq_none_iff (h : k.CanHold xs.length r) {steps : UInt32} {layer x y : Nat} :
    r.probeTexel layer (k.pack xs) steps x y = none ↔
      ∃ texel, r.texel? x y layer = some texel ∧ ∃ got : List k.Value,
        got.length = xs.length ∧ got.flatMap k.codec.bytes <+: texel ∧
          ProbeValue.allNear (k.near steps) got xs = true := by
  -- A texel is decoded into as many values, which are those that its bytes begin with.
  have hdecoded {got : ProbeValue} : r.decoded? (k.pack xs) x y layer = some got ↔
      ∃ texel, r.texel? x y layer = some texel ∧ ∃ values : List k.Value,
        values.length = xs.length ∧ values.flatMap k.codec.bytes <+: texel ∧
          k.pack values = got := by
    rw [Readback.decoded?, Option.bind_eq_some_iff]
    simp only [decodeLike?_pack h, Option.map_eq_some_iff, ByteCodec.components?_eq_some_iff,
      and_assoc]
  unfold Readback.probeTexel
  constructor
  · intro hprobe
    split at hprobe
    · rename_i found hfound
      obtain ⟨texel, htexel, got, hlength, hprefix, rfl⟩ := hdecoded.mp hfound
      rw [matchesWithin_pack] at hprobe
      split at hprobe
      · rename_i hnear
        exact ⟨texel, htexel, got, hlength, hprefix, hnear⟩
      · cases hprobe
    · cases hprobe
  · rintro ⟨texel, htexel, got, hlength, hprefix, hnear⟩
    rw [hdecoded.mpr ⟨texel, htexel, got, hlength, hprefix, rfl⟩]
    dsimp only
    rw [matchesWithin_pack, if_pos hnear]

end ValueKind

end ShaderConformance
