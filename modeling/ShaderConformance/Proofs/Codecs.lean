import Mathlib.Data.List.Basic
import ShaderConformance.Probe.Value

/-!
# Values kept in bytes

Uniforms put values one after the other into a buffer, and probes read components out of a
texel.  Both keep a value in a fixed number of bytes, the low byte first.

## Main definitions

- `ByteCodec`: a way to keep values in a fixed number of bytes
- `ByteCodec.word`, `ByteCodec.long`: words of both widths
- `ByteCodec.at?`: the value that stands at an index of a texel

## Main statements

- `littleEndian_inj`: a number of bytes is determined by the number that they stand for
- `ByteCodec.components?_eq_some_iff`: the components of a texel are the values whose bytes
  the texel begins with
-/

namespace ShaderConformance

/-! ## Numbers in bytes -/

/-- A number of some bytes is below the power that they can count to. -/
theorem littleEndian_lt (bs : List UInt8) : littleEndian bs < Nat.pow 256 bs.length := by
  induction bs with
  | nil => decide
  | cons b bs ih =>
    have hb := b.toNat_lt
    have hpow : Nat.pow 256 (b :: bs).length = Nat.pow 256 bs.length * 256 := rfl
    rw [littleEndian, hpow]
    omega

theorem littleEndian_append (bs bs' : List UInt8) : littleEndian (bs ++ bs') =
    littleEndian bs + Nat.pow 256 bs.length * littleEndian bs' := by
  induction bs with
  | nil => simp [littleEndian]
  | cons b bs ih =>
    have hpow : Nat.pow 256 (b :: bs).length = 256 * Nat.pow 256 bs.length := Nat.mul_comm _ _
    rw [List.cons_append, littleEndian, littleEndian, ih, hpow, Nat.mul_add, Nat.mul_assoc,
      Nat.add_assoc]

/-- As many bytes that stand for the same number are the same bytes. -/
theorem littleEndian_inj {bs bs' : List UInt8} (hlength : bs.length = bs'.length)
    (h : littleEndian bs = littleEndian bs') : bs = bs' := by
  induction bs generalizing bs' with
  | nil => exact (List.length_eq_zero_iff.mp hlength.symm).symm
  | cons b bs ih =>
    cases bs' with
    | nil => cases hlength
    | cons b' bs' =>
      -- The low byte is the remainder, the others are the quotient.
      have hb := b.toNat_lt
      have hb' := b'.toNat_lt
      rw [littleEndian, littleEndian] at h
      have hlow : b = b' := UInt8.toNat_inj.mp (by omega)
      have hhigh : bs = bs' := ih (Nat.succ.inj hlength) (by omega)
      rw [hlow, hhigh]

/-- The bytes of a word read back as the word. -/
theorem littleEndian_wordBytes (w : UInt32) : littleEndian (wordBytes w) = w.toNat := by
  have hw := w.toNat_lt
  have h8 : UInt32.toNat 8 % 32 = 8 := rfl
  have h16 : UInt32.toNat 16 % 32 = 16 := rfl
  have h24 : UInt32.toNat 24 % 32 = 24 := rfl
  simp only [wordBytes, littleEndian, UInt32.toNat_toUInt8, UInt32.toNat_shiftRight,
    Nat.shiftRight_eq_div_pow, h8, h16, h24]
  omega

/-- The bytes of a long word read back as the long word. -/
theorem littleEndian_longBytes (w : UInt64) : littleEndian (longBytes w) = w.toNat := by
  have hw := w.toNat_lt
  have h32 : UInt64.toNat 32 % 64 = 32 := rfl
  have hfour : Nat.pow 256 4 = 2 ^ 32 := by decide
  rw [longBytes, littleEndian_append, length_wordBytes, littleEndian_wordBytes,
    littleEndian_wordBytes, UInt64.toNat_toUInt32, UInt64.toNat_toUInt32,
    UInt64.toNat_shiftRight, h32, hfour, Nat.shiftRight_eq_div_pow]
  omega

/-! ## Codecs -/

/-- A way to keep values in a fixed number of bytes: every value has bytes of its own, and
    whatever that many bytes are, they are those of a value. -/
structure ByteCodec (V : Type) where
  size : Nat
  bytes : V → List UInt8
  ofBytes : List UInt8 → V
  length_bytes : ∀ v, (bytes v).length = size
  ofBytes_bytes : ∀ v, ofBytes (bytes v) = v
  bytes_ofBytes : ∀ bs, bs.length = size → bytes (ofBytes bs) = bs

namespace ByteCodec

/-- Words of 32 bits. -/
def word : ByteCodec UInt32 where
  size := 4
  bytes := wordBytes
  ofBytes bs := UInt32.ofNat (littleEndian bs)
  length_bytes := length_wordBytes
  ofBytes_bytes w := by rw [littleEndian_wordBytes, UInt32.ofNat_toNat]
  bytes_ofBytes bs hlength := by
    have hlt : littleEndian bs < UInt32.size := by
      have h := littleEndian_lt bs
      rwa [hlength] at h
    apply littleEndian_inj
    · rw [hlength, length_wordBytes]
    · rw [littleEndian_wordBytes, UInt32.toNat_ofNat_of_lt' hlt]

/-- Words of 64 bits. -/
def long : ByteCodec UInt64 where
  size := 8
  bytes := longBytes
  ofBytes bs := UInt64.ofNat (littleEndian bs)
  length_bytes := length_longBytes
  ofBytes_bytes w := by rw [littleEndian_longBytes, UInt64.ofNat_toNat]
  bytes_ofBytes bs hlength := by
    have hlt : littleEndian bs < UInt64.size := by
      have h := littleEndian_lt bs
      rwa [hlength] at h
    apply littleEndian_inj
    · rw [hlength, length_longBytes]
    · rw [littleEndian_longBytes, UInt64.toNat_ofNat_of_lt' hlt]

section Through

variable {V W : Type} (codec : ByteCodec W) (toWord : V → W) (ofWord : W → V)
  (hword : ∀ v, ofWord (toWord v) = v) (hvalue : ∀ w, toWord (ofWord w) = w)

/-- Values that are kept as the words that they are made of. -/
def through : ByteCodec V where
  size := codec.size
  bytes v := codec.bytes (toWord v)
  ofBytes bs := ofWord (codec.ofBytes bs)
  length_bytes v := codec.length_bytes (toWord v)
  ofBytes_bytes v := by rw [codec.ofBytes_bytes, hword]
  bytes_ofBytes bs hlength := by rw [hvalue, codec.bytes_ofBytes bs hlength]

end Through

/-! ## Components -/

section Components

variable {V : Type} (codec : ByteCodec V) {texel : List UInt8} {xs : List V}

/-- The value at an index of a texel. -/
def at? (texel : List UInt8) (index : Nat) : Option V :=
  (componentBytes? texel codec.size index).map codec.ofBytes

/-- Values have as many bytes as one has, times their number. -/
theorem length_flatMap_bytes (xs : List V) :
    (xs.flatMap codec.bytes).length = xs.length * codec.size := by
  induction xs with
  | nil => simp
  | cons x xs ih =>
    rw [List.flatMap_cons, List.length_append, codec.length_bytes, ih, List.length_cons,
      Nat.succ_mul, Nat.add_comm]

/-- A component is found if its bytes lie within the texel. -/
theorem componentBytes?_eq_some_iff {size index : Nat} {bs : List UInt8} :
    componentBytes? texel size index = some bs ↔
      bs.length = size ∧ bs <+: texel.drop (index * size) := by
  unfold componentBytes?
  dsimp only
  constructor
  · intro h
    split at h
    · rename_i hsize
      cases h
      exact ⟨hsize, List.take_prefix _ _⟩
    · cases h
  · rintro ⟨rfl, hprefix⟩
    rw [← List.prefix_iff_eq_take.mp hprefix, if_pos rfl]

/-- A value stands at an index of a texel if its bytes do. -/
theorem at?_eq_some_iff {index : Nat} {v : V} :
    codec.at? texel index = some v ↔ codec.bytes v <+: texel.drop (index * codec.size) := by
  rw [at?, Option.map_eq_some_iff]
  constructor
  · rintro ⟨bs, hbs, rfl⟩
    obtain ⟨hlength, hprefix⟩ := componentBytes?_eq_some_iff.mp hbs
    rwa [codec.bytes_ofBytes bs hlength]
  · intro hprefix
    exact ⟨codec.bytes v, componentBytes?_eq_some_iff.mpr ⟨codec.length_bytes v, hprefix⟩,
      codec.ofBytes_bytes v⟩

/-- To change each component is to change how it is read. -/
theorem components?_map {T U : Type} (read? : Nat → Option T) (g : T → U) (n : Nat) :
    ProbeValue.components? (fun i => (read? i).map g) n =
      (ProbeValue.components? read? n).map (List.map g) := by
  unfold ProbeValue.components?
  induction List.range n with
  | nil => rfl
  | cons i is ih =>
    rw [List.mapM_cons, List.mapM_cons, ih]
    cases read? i with
    | none => rfl
    | some x => cases is.mapM read? <;> rfl

/-- Values that are kept as words are read as words. -/
theorem components?_through {W : Type} (inner : ByteCodec W) {toWord : V → W} {ofWord : W → V}
    (hword : ∀ v, ofWord (toWord v) = v) (hvalue : ∀ w, toWord (ofWord w) = w) (n : Nat) :
    ProbeValue.components? ((inner.through toWord ofWord hword hvalue).at? texel) n =
      (ProbeValue.components? (inner.at? texel) n).map (List.map ofWord) := by
  have hread : (inner.through toWord ofWord hword hvalue).at? texel =
      fun i => (inner.at? texel i).map ofWord := by
    funext i
    rw [at?, at?, Option.map_map]
    rfl
  rw [hread, components?_map]

/-- One more component stands behind the others. -/
theorem components?_succ_eq_some_iff {T : Type} {read? : Nat → Option T} {n : Nat} {xs : List T} :
    ProbeValue.components? read? (n + 1) = some xs ↔
      ∃ ys y, ProbeValue.components? read? n = some ys ∧ read? n = some y ∧ xs = ys ++ [y] := by
  rw [ProbeValue.components?, List.range_succ, List.mapM_append]
  simp only [List.mapM_cons, List.mapM_nil, Option.bind_eq_bind, Option.pure_def,
    Option.bind_eq_some_iff, Option.some.injEq]
  constructor
  · rintro ⟨ys, hys, _, ⟨y, hy, _, rfl, rfl⟩, rfl⟩
    exact ⟨ys, y, hys, hy, rfl⟩
  · rintro ⟨ys, y, hys, hy, rfl⟩
    exact ⟨ys, hys, [y], ⟨y, hy, [], rfl, rfl⟩, rfl⟩

/-- A front of two parts is the one part and then the other. -/
theorem append_prefix_iff {bs bs' texel : List UInt8} :
    bs ++ bs' <+: texel ↔ bs <+: texel ∧ bs' <+: texel.drop bs.length := by
  constructor
  · rintro ⟨more, rfl⟩
    simp [List.append_assoc]
  · rintro ⟨⟨more, rfl⟩, h⟩
    rw [List.drop_left] at h
    exact (List.prefix_append_right_inj bs).mpr h

/-- The components of a texel are the values whose bytes it begins with. -/
theorem components?_eq_some_iff {n : Nat} :
    ProbeValue.components? (codec.at? texel) n = some xs ↔
      xs.length = n ∧ xs.flatMap codec.bytes <+: texel := by
  induction n generalizing xs with
  | zero =>
    rw [List.length_eq_zero_iff]
    constructor
    · intro h
      cases h
      exact ⟨rfl, List.nil_prefix⟩
    · rintro ⟨rfl, -⟩
      rfl
  | succ n ih =>
    -- Components are read from the last one back, so the list grows at its end.
    have hsnoc (ys : List V) (y : V) : (ys ++ [y]).flatMap codec.bytes =
        ys.flatMap codec.bytes ++ codec.bytes y := by simp
    rw [components?_succ_eq_some_iff]
    constructor
    · rintro ⟨ys, y, hys, hy, rfl⟩
      obtain ⟨rfl, hprefix⟩ := ih.mp hys
      rw [hsnoc, append_prefix_iff, codec.length_flatMap_bytes]
      exact ⟨List.length_append, hprefix, codec.at?_eq_some_iff.mp hy⟩
    · rintro ⟨hlength, hprefix⟩
      obtain rfl | ⟨ys, y, rfl⟩ := List.eq_nil_or_concat' xs
      · cases hlength
      · have hys : ys.length = n := by simpa using hlength
        subst hys
        rw [hsnoc, append_prefix_iff, codec.length_flatMap_bytes] at hprefix
        exact ⟨ys, y, ih.mpr ⟨rfl, hprefix.1⟩, codec.at?_eq_some_iff.mpr hprefix.2, rfl⟩

end Components

end ByteCodec

end ShaderConformance
