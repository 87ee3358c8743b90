import ShaderConformance.Proofs.FirstMismatch
import ShaderConformance.Proofs.QualifierUse

/-!
# Uniforms and probes

What a uniform writes is what a probe for the same values expects.  Uniforms are read word by
word into bytes; probes are read as lists, and compared with what a texel decodes to.

## Main definitions

- `Readback.BeginsWith`: every texel of a rectangle begins with some bytes
- `ReadsBack`: what a probe for the values of a uniform finds in contents

## Main statements

- `uniform_of_readWith`: what a line of a uniform says
- `readsBack_of_uniform`: every uniform is read back by a probe for its values
-/

namespace ShaderConformance

open Text

/-! ## Reading back -/

namespace Readback

/-- Every texel of a rectangle is there, and begins with some bytes. -/
def BeginsWith (r : Readback) (rect : ProbeRect) (data : List UInt8) : Prop :=
  ∀ x y, rect.Contains x y →
    ∃ texel, r.texel? x y rect.layer.toNat = some texel ∧ data <+: texel

end Readback

/-- What a probe for the values of a uniform finds in contents: it can read them, it accepts
    the bytes of the uniform with every tolerance, and without a tolerance it accepts no other
    bytes of integers. -/
structure ReadsBack (k : ValueKind) (data : List UInt8) (value : ProbeValue) (r : Readback) :
    Prop where
  fits : value.fits r = true
  accepts : ∀ rect steps, r.BeginsWith rect data → r.probe rect value steps = none
  exact : k.isInteger = true → ∀ rect, r.probe rect value 0 = none → r.BeginsWith rect data

/-- Values that a readback holds are read back as they are. -/
theorem readsBack_pack {k : ValueKind} {xs : List k.Value} {r : Readback}
    (h : k.CanHold xs.length r) : ReadsBack k (xs.flatMap k.codec.bytes) (k.pack xs) r where
  fits := k.fits_pack h
  accepts rect steps hbegins := by
    rw [Readback.probe_eq_none_iff]
    intro x y hcontains
    obtain ⟨texel, htexel, hprefix⟩ := hbegins x y hcontains
    rw [ValueKind.probeTexel_eq_none_iff h]
    exact ⟨texel, htexel, xs, rfl, hprefix, ValueKind.allNear_self steps xs⟩
  exact hk rect hprobe x y hcontains := by
    have htexels := Readback.probe_eq_none_iff.mp hprobe x y hcontains
    -- As many integers that are near the expected ones are these, so the bytes are theirs.
    obtain ⟨texel, htexel, got, hlength, hprefix, hnear⟩ :=
      (ValueKind.probeTexel_eq_none_iff h).mp htexels
    rw [ValueKind.eq_of_allNear_zero hk hlength hnear] at hprefix
    exact ⟨texel, htexel, hprefix⟩

/-! ## Lines of uniforms -/

/-- The components that are read are the next words of the line. -/
theorem components_eq_ok {k : ValueKind} {n count : Nat} {line rest : Text} {data : List UInt8}
    (h : (k.uniformType n).components line count = .ok (data, rest)) :
    ∃ vs xs, words line = vs ++ words rest ∧ vs.length = count ∧ (∀ v ∈ vs, v.IsWord) ∧
      k.Read vs xs ∧ data = xs.flatMap k.codec.bytes := by
  induction count generalizing line data with
  | zero =>
    obtain ⟨rfl, rfl⟩ := Prod.mk.inj (Except.ok.inj h)
    exact ⟨[], [], rfl, rfl, nofun, .nil, rfl⟩
  -- The next word is the next component, and the others are read from what follows it.
  | succ count ih =>
    rw [UniformType.components] at h
    split at h
    · cases h
    · rename_i word behind hnext
      split at h
      · cases h
      · rename_i bytes hbytes
        obtain ⟨⟨more, rest'⟩, hmore, hresult⟩ := map_eq_ok_iff.mp h
        obtain ⟨rfl, rfl⟩ := Prod.mk.inj hresult
        obtain ⟨x, hx, rfl⟩ := Option.map_eq_some_iff.mp hbytes
        obtain ⟨vs, xs, hwords, hlength, hsolid, hread, rfl⟩ := ih hmore
        have hword : word.IsWord := (nextWord?_eq_some hnext).1
        refine ⟨word :: vs, x :: xs, ?_, ?_, ?_, .cons hx hread, rfl⟩
        · rw [words_of_nextWord? hnext, hwords, List.cons_append]
        · rw [List.length_cons, hlength]
        · exact List.forall_mem_cons.mpr ⟨hword, hsolid⟩

/-- An operand is the first word of its text. -/
theorem operand_eq_ok {T : Type} {read? : Text → Option T} {line rest : Text} {what : String}
    {value : T} (h : operand read? line what = .ok (value, rest)) :
    ∃ word, words line = word :: words rest := by
  unfold operand at h
  split at h
  · cases h
  · rename_i word behind hnext
    split at h
    · obtain ⟨-, rfl⟩ := Prod.mk.inj (Except.ok.inj h)
      exact ⟨word, words_of_nextWord? hnext⟩
    · cases h

/-- The type of a uniform is named by the first word. -/
theorem uniformType_eq_ok {line rest : Text} {t : UniformType}
    (h : uniformType line = .ok (t, rest)) :
    t ∈ UniformType.all ∧ words line = t.name.toList :: words rest := by
  unfold uniformType at h
  split at h
  · cases h
  · rename_i name behind hnext
    split at h
    · cases h
    · rename_i found hfound
      obtain ⟨rfl, rfl⟩ := Prod.mk.inj (Except.ok.inj h)
      have hname : found.name.toList = name := by simpa using List.find?_some hfound
      rw [hname]
      exact ⟨List.mem_of_find?_eq_some hfound, words_of_nextWord? hnext⟩

/-- What the operands of a uniform say. -/
theorem uniformLine_eq_ok {line : Text} {command : Command}
    (h : Command.uniformLine line = .ok command) :
    ∃ (k : ValueKind) (vs : List Text) (xs : List k.Value) (offset : UInt32) (O : Text),
      words line = O :: (k.typeName vs.length).toList :: vs ∧ k.Says vs xs ∧
        command = .uniform offset (xs.flatMap k.codec.bytes) := by
  unfold Command.uniformLine at h
  obtain ⟨⟨offset, rest⟩, hoffset, h⟩ := bind_eq_ok_iff.mp h
  obtain ⟨⟨t, rest'⟩, htype, h⟩ := bind_eq_ok_iff.mp h
  obtain ⟨⟨data, rest''⟩, hdata, h⟩ := bind_eq_ok_iff.mp h
  obtain ⟨⟨⟩, hend, h⟩ := bind_eq_ok_iff.mp h
  dsimp only at htype hdata hend h
  obtain ⟨O, hO⟩ := operand_eq_ok hoffset
  obtain ⟨ht, hT⟩ := uniformType_eq_ok htype
  obtain ⟨k, n, hfewest, hmost, rfl⟩ := UniformType.exists_kind ht
  obtain ⟨vs, xs, hvs, hlength, hsolid, hread, rfl⟩ := components_eq_ok hdata
  have hcount : vs.length = n := hlength
  -- The line ends behind the components, so all words behind the type are theirs.
  rw [words_eq_nil_of_endOfLine hend, List.append_nil] at hvs
  split at h
  · cases h
  · have hsaid : k.Says vs xs := by
      rw [← hcount] at hfewest hmost
      exact ⟨hfewest, hmost, hsolid, hread⟩
    have hwords : words line = O :: (k.typeName vs.length).toList :: vs := by
      rw [hO, hT, hvs, hcount]
      rfl
    exact ⟨k, vs, xs, offset, O, hwords, hsaid, (Except.ok.inj h).symm⟩

/-! ## Test lines -/

section Line

variable {c : QualifierContext} {todo bug : Bool} {line : Text} {ws : List Text}
  (hwords : words line = "uniform".toList :: ws)

include hwords

/-- A line of a uniform begins with the letter of its keyword. -/
theorem exists_trimStart_of_uniform : ∃ cs, trimStart line = 'u' :: cs := by
  obtain ⟨rest, hnext, -⟩ := words_eq_cons_iff.mp hwords
  obtain ⟨-, behind, hline, -⟩ := nextWord?_eq_some hnext
  exact ⟨_, hline⟩

/-- There is no qualifier in front of the keyword. -/
theorem effect?_of_uniform : TestLine.effect? c line = .ok none := by
  obtain ⟨cs, hline⟩ := exists_trimStart_of_uniform hwords
  apply TestLine.effect?_of_forall_ne
  intro effect hleading
  -- The keyword would begin the line, and none begins with the letter of this one.
  have hkeyword := leadingWord_append_behindWord line
  rw [hleading, hline] at hkeyword
  cases effect <;> simp [TestLine.Effect.keyword] at hkeyword

/-- The line is read as a uniform: no keyword that is tried before begins with the same
    letter. -/
theorem read_of_uniform : ∃ rest, words rest = ws ∧
    Command.read line = Command.uniformLine rest := by
  obtain ⟨cs, hline⟩ := exists_trimStart_of_uniform hwords
  obtain ⟨rest, hnext, hrest⟩ := words_eq_cons_iff.mp hwords
  have hkeyword : keyword? line "uniform" = some rest :=
    keyword?_of_nextWord? hnext (by decide)
  -- No command before it in the table begins with its letter.
  have hletters : (Command.readers.take 9).all
      (fun entry => (firstLetter? entry.1).any (· ≠ 'u')) = true := by decide
  have hreaders : Command.readers = Command.readers.take 9 ++
      ("uniform", Command.uniformLine) :: Command.readers.drop 10 := rfl
  refine ⟨rest, hrest, ?_⟩
  rw [Command.read, hreaders, List.findSome?_append, List.findSome?_eq_none_iff.mpr,
    Option.none_or, List.findSome?_cons]
  · dsimp only
    rw [hkeyword]
    rfl
  · intro entry hentry
    have hletter := List.all_eq_true.mp hletters entry hentry
    rw [Option.any_eq_true] at hletter
    obtain ⟨k, hk, hne⟩ := hletter
    have hne : 'u' ≠ k := Ne.symm (of_decide_eq_true hne)
    dsimp only
    rw [keyword?_of_firstLetter? hline hk hne, Option.map_none]

end Line

/-- What the line of a uniform says, in words. -/
theorem uniform_of_readWith {c : QualifierContext} {todo bug : Bool} {line O T : Text}
    {vs : List Text} {test : TestLine} (hwords : words line = "uniform".toList :: O :: T :: vs)
    (hread : TestLine.readWith c todo bug line = .ok (some test)) :
    ∃ (k : ValueKind) (xs : List k.Value) (offset : UInt32),
      T = (k.typeName vs.length).toList ∧ k.Says vs xs ∧
        test = ⟨todo, bug, .uniform offset (xs.flatMap k.codec.bytes)⟩ := by
  obtain ⟨rest, hrest, hcommand⟩ := read_of_uniform hwords
  rw [TestLine.readWith_command (effect?_of_uniform hwords), hcommand] at hread
  obtain ⟨command, huniform, htest⟩ := map_eq_ok_iff.mp hread
  obtain ⟨k, vs', xs, offset, O', hparts, hsaid, rfl⟩ := uniformLine_eq_ok huniform
  obtain ⟨-, hparts⟩ := List.cons.inj (hrest.symm.trans hparts)
  obtain ⟨rfl, rfl⟩ := List.cons.inj hparts
  exact ⟨k, xs, offset, rfl, hsaid, (Option.some.inj htest).symm⟩

/-- A probe that has some words as its values is read, and expects a value. -/
structure ValueKind.Expects (k : ValueKind) (vs : List Text) (value : ProbeValue) : Prop where
  form : ∀ coordinates tail tolerance, ')' ∉ coordinates →
    Probe.tolerance? tail = some tolerance →
    Probe.form? ('(' :: coordinates ++ ") ".toList ++ k.written vs ++ tail) =
      some ⟨coordinates, k.probeName.toList, commaList vs, tolerance⟩
  value : Probe.value k.probeName.toList (commaList vs) = .ok value

/-- Every uniform is read back by a probe for its values. -/
theorem readsBack_of_uniform {c : QualifierContext} {todo bug : Bool} {line O T : Text}
    {vs : List Text} {test : TestLine} (hwords : words line = "uniform".toList :: O :: T :: vs)
    (hread : TestLine.readWith c todo bug line = .ok (some test)) :
    ∃ (k : ValueKind) (offset : UInt32) (data : List UInt8) (value : ProbeValue),
      T = (k.typeName vs.length).toList ∧ test = ⟨todo, bug, .uniform offset data⟩ ∧
      k.Expects vs value ∧ ∀ r, k.CanHold vs.length r → ReadsBack k data value r := by
  obtain ⟨k, xs, offset, htype, hsaid, htest⟩ := uniform_of_readWith hwords hread
  have hexpects : k.Expects vs (k.pack xs) :=
    ⟨fun _ _ _ => ValueKind.form?_written hsaid, ValueKind.value_pack hsaid⟩
  refine ⟨k, offset, _, k.pack xs, htype, htest, hexpects, ?_⟩
  intro r hr
  rw [hsaid.read.length_eq] at hr
  exact readsBack_pack hr

/-- A negative integer by its bit pattern, and the largest integer. -/
def patternLine : Text := "uniform 4 int2 0xffffff80 2147483647".toList

def patternWords : List Text := ["0xffffff80".toList, "2147483647".toList]

def patternBytes : List UInt8 := [0x80, 0xff, 0xff, 0xff, 0xff, 0xff, 0xff, 0x7f]

/-- One texel of two integers. -/
def patternContents : Readback where
  format := .r32G32Sint
  width := 1
  height := 1
  depth := 1
  rowPitch := 8
  texelSize := 8
  data := ⟨patternBytes.toArray⟩

/-- Two integers, written and probed. -/
theorem readsBack_patternLine :
    words patternLine = "uniform".toList :: "4".toList :: "int2".toList :: patternWords ∧
    TestLine.read ⟨.sm6_0, []⟩ patternLine =
      .ok (some ⟨false, false, .uniform 4 patternBytes⟩) ∧
    ∃ value, Probe.value "i32".toList (commaList patternWords) = .ok value ∧
      patternContents.probe ⟨0, 0, 1, 1, 0⟩ value 0 = none := by
  have hwords : words patternLine =
      "uniform".toList :: "4".toList :: "int2".toList :: patternWords := by decide +kernel
  have hread : TestLine.read ⟨.sm6_0, []⟩ patternLine =
      .ok (some ⟨false, false, .uniform 4 patternBytes⟩) := by decide +kernel
  obtain ⟨k, offset, data, value, htype, htest, hexpects, hback⟩ :=
    readsBack_of_uniform hwords hread
  have hkind : k = .int32 := by
    revert htype
    cases k <;> decide +kernel
  subst hkind
  obtain ⟨rfl, rfl⟩ := Command.uniform.inj (TestLine.mk.inj htest).2.2
  have hholds : ValueKind.int32.CanHold 2 patternContents := Or.inr ⟨rfl, by decide⟩
  refine ⟨hwords, hread, value, hexpects.value, (hback _ hholds).accepts _ 0 ?_⟩
  -- The rectangle has the one texel.
  rintro x y ⟨⟨-, hx⟩, -, hy⟩
  obtain rfl : x = 0 := Nat.lt_one_iff.mp hx
  obtain rfl : y = 0 := Nat.lt_one_iff.mp hy
  exact ⟨patternBytes, by decide +kernel, List.prefix_refl _⟩

end ShaderConformance
