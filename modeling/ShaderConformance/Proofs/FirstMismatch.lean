import ShaderConformance.Proofs.Results
import ShaderConformance.Proofs.ValueKinds

/-!
# The first mismatch of a probe

A probe looks at the texels of a rectangle row by row.  A texel matches if it is there, if it
has as many components as are expected, and if each of them is near the expected one.

## Main definitions

- `ProbeRect.Contains`: the texels of a rectangle
- `Readback.Decodes`: the components that a texel is decoded into
- `Readback.Matches`: texels that match an expected value within a tolerance
- `Readback.IsFirstMismatch`: what a probe says of the first texel that does not

## Main statements

- `firstFrom?_eq_none_iff`, `firstFrom?_eq_some_iff`: a search over numbers
- `Readback.probe_eq_none_iff`, `Readback.probe_eq_some_iff`: a search over a rectangle
- `ValueKind.decodeLike?_eq_some_iff`: a texel is decoded component by component
- `Readback.verdict_eq_error_iff`: a probe breaks off where its search cannot go on
- `Readback.probe_finds_firstMismatch`: a probe finds the first texel that does not match
-/

namespace ShaderConformance

/-! ## Searches -/

/-- Nothing is found if there is nothing at any place. -/
theorem firstFrom?_eq_none_iff {T : Type} {search : Nat → Option T} {first count : Nat} :
    firstFrom? search first count = none ↔
      ∀ i, first ≤ i → i < first + count → search i = none := by
  induction count generalizing first with
  | zero =>
    constructor
    · intro _ i hfirst hlast
      omega
    · intro _
      rfl
  | succ count ih =>
    rw [firstFrom?]
    constructor
    · intro h i hfirst hlast
      split at h
      · cases h
      · -- The first place is searched here, and the others by induction.
        rename_i hnone
        by_cases hi : i = first
        · rw [hi, hnone]
        · exact ih.mp h i (by omega) (by omega)
    · intro h
      rw [h first (Nat.le_refl _) (by omega)]
      exact ih.mpr fun i hfirst hlast => h i (by omega) (by omega)

/-- What a search finds stands at a number before which there is nothing. -/
theorem firstFrom?_eq_some_iff {T : Type} {search : Nat → Option T} {first count : Nat} {t : T} :
    firstFrom? search first count = some t ↔
      ∃ i, first ≤ i ∧ i < first + count ∧ search i = some t ∧
        ∀ j, first ≤ j → j < i → search j = none := by
  induction count generalizing first with
  | zero =>
    constructor
    · exact nofun
    · rintro ⟨i, hfirst, hlast, -⟩
      omega
  | succ count ih =>
    rw [firstFrom?]
    constructor
    · intro h
      split at h
      · rename_i found hfound
        obtain rfl := Option.some.inj h
        exact ⟨first, Nat.le_refl _, by omega, hfound, fun j hfirst hj => by omega⟩
      · rename_i hnone
        -- Nothing was found at `first`, so the search went on behind it.
        obtain ⟨i, hfirst, hlast, hi, hbefore⟩ := ih.mp h
        refine ⟨i, by omega, by omega, hi, fun j hj hij => ?_⟩
        by_cases hfirst' : j = first
        · rw [hfirst', hnone]
        · exact hbefore j (by omega) hij
    · rintro ⟨i, hfirst, hlast, hi, hbefore⟩
      by_cases hi' : i = first
      · rw [← hi', hi]
      · rw [hbefore first (Nat.le_refl _) (by omega)]
        exact ih.mpr ⟨i, by omega, by omega, hi, fun j hj hij => hbefore j (by omega) hij⟩

/-! ## Rectangles of texels -/

/-- The texels of a rectangle, by their coordinates. -/
def ProbeRect.Contains (rect : ProbeRect) (x y : Nat) : Prop :=
  (rect.left.toNat ≤ x ∧ x < rect.right.toNat) ∧ rect.top.toNat ≤ y ∧ y < rect.bottom.toNat

/-- The texels of the rows above, and those to the left. -/
def Before (x' y' x y : Nat) : Prop := y' < y ∨ y' = y ∧ x' < x

namespace Readback

variable {r : Readback} {rect : ProbeRect} {value : ProbeValue} {steps : UInt32}

/-- A probe finds nothing if every texel is as expected. -/
theorem probe_eq_none_iff : r.probe rect value steps = none ↔
    ∀ x y, rect.Contains x y → r.probeTexel rect.layer.toNat value steps x y = none := by
  unfold probe ProbeRect.Contains
  dsimp only
  rw [firstFrom?_eq_none_iff]
  constructor
  · rintro h x y ⟨hx, hy⟩
    exact firstFrom?_eq_none_iff.mp (h y hy.1 (by omega)) x hx.1 (by omega)
  · intro h y hfirst hlast
    rw [firstFrom?_eq_none_iff]
    intro x hleft hright
    apply h x y
    omega

/-- What a probe finds is at the first texel that is not as expected. -/
theorem probe_eq_some_iff {m : ProbeMismatch} : r.probe rect value steps = some m ↔
    ∃ x y, rect.Contains x y ∧ r.probeTexel rect.layer.toNat value steps x y = some m ∧
      ∀ x' y', rect.Contains x' y' → Before x' y' x y →
        r.probeTexel rect.layer.toNat value steps x' y' = none := by
  unfold probe ProbeRect.Contains Before
  dsimp only
  rw [firstFrom?_eq_some_iff]
  constructor
  -- A search of rows, of which each is a search of its columns.
  · rintro ⟨y, htop, hbottom, hrow, habove⟩
    obtain ⟨x, hleft, hright, hx, hbefore⟩ := firstFrom?_eq_some_iff.mp hrow
    refine ⟨x, y, by omega, hx, ?_⟩
    rintro x' y' ⟨hx', hy'⟩ (hup | ⟨rfl, hback⟩)
    · exact firstFrom?_eq_none_iff.mp (habove y' hy'.1 hup) x' hx'.1 (by omega)
    · exact hbefore x' hx'.1 hback
  · rintro ⟨x, y, ⟨hx, hy⟩, hfound, hbefore⟩
    refine ⟨y, hy.1, by omega, ?_, fun y' htop hup => ?_⟩
    · exact firstFrom?_eq_some_iff.mpr ⟨x, hx.1, by omega, hfound, fun x' hleft hback =>
        hbefore x' y ⟨by omega, hy⟩ (.inr ⟨rfl, hback⟩)⟩
    · exact firstFrom?_eq_none_iff.mpr fun x' hleft hright =>
        hbefore x' y' ⟨by omega, by omega⟩ (.inl hup)

end Readback

/-! ## Components -/

namespace ValueKind

variable {k : ValueKind} {f : Format} {texel : List UInt8} {xs : List k.Value}

/-- A component of a texel as a value of a kind. -/
def component? : (k : ValueKind) → Format → List UInt8 → Nat → Option k.Value
  | single, f, texel => f.componentNumber? texel
  | int32, f, texel => fun i => (f.componentInteger? texel i).map UInt32.toInt32
  | uint32, f, texel => f.componentInteger? texel
  | double, _, texel => fun i => (componentLong? texel i).map Double.mk
  | int64, _, texel => fun i => (componentLong? texel i).map UInt64.toInt64
  | uint64, _, texel => componentLong? texel

/-- A value is a list of values of one kind. -/
theorem exists_pack (value : ProbeValue) :
    ∃ (k : ValueKind) (xs : List k.Value), value = k.pack xs := by
  cases value with
  | u64 v => exact ⟨uint64, v, rfl⟩
  | i64 v => exact ⟨int64, v, rfl⟩
  | f64 v => exact ⟨double, v, rfl⟩
  | u32 v => exact ⟨uint32, v, rfl⟩
  | i32 v => exact ⟨int32, v, rfl⟩
  | f32 v => exact ⟨single, v, rfl⟩

/-- Packed values have one kind. -/
theorem pack_inj {k' : ValueKind} {ys : List k'.Value} (h : k.pack xs = k'.pack ys) :
    ∃ hk : k = k', hk ▸ xs = ys := by
  cases k <;> cases k' <;> cases h <;> exact ⟨rfl, rfl⟩

/-- A texel is decoded one component after another. -/
theorem decodeLike?_pack_eq (xs : List k.Value) : (k.pack xs).decodeLike? f texel =
    (ProbeValue.components? (k.component? f texel) xs.length).map k.pack := by
  cases k with
  | single => rfl
  | uint32 => rfl
  | uint64 => rfl
  | int32 =>
    rw [component?, ByteCodec.components?_map, Option.map_map]
    rfl
  | double =>
    rw [component?, ByteCodec.components?_map, Option.map_map]
    rfl
  | int64 =>
    rw [component?, ByteCodec.components?_map, Option.map_map]
    rfl

/-- A texel is decoded into its first components, as many as are expected. -/
theorem decodeLike?_eq_some_iff {got : ProbeValue} :
    (k.pack xs).decodeLike? f texel = some got ↔
      ∃ ys, List.Forall₂ (fun i y => k.component? f texel i = some y) (List.range xs.length) ys ∧
        got = k.pack ys := by
  rw [decodeLike?_pack_eq, Option.map_eq_some_iff]
  simp only [ProbeValue.components?, mapM_eq_some_iff, eq_comm]

/-- Lists are near if their items are, one by one. -/
theorem allNear_eq_true_iff {steps : UInt32} {ys : List k.Value} (hlength : ys.length = xs.length) :
    ProbeValue.allNear (k.near steps) ys xs = true ↔
      List.Forall₂ (fun y x => k.near steps y x = true) ys xs := by
  rw [List.forall₂_iff_zip, ProbeValue.allNear, List.all_eq_true]
  constructor
  · intro h
    exact ⟨hlength, fun {y x} hmem => h (y, x) hmem⟩
  · rintro ⟨-, h⟩ ⟨y, x⟩ hmem
    exact h hmem

end ValueKind

/-! ## Matches -/

/-- As many values of a kind, each of which is near the expected one. -/
def ProbeValue.Near (steps : UInt32) (got value : ProbeValue) : Prop :=
  ∃ (k : ValueKind) (ys xs : List k.Value), got = k.pack ys ∧ value = k.pack xs ∧
    List.Forall₂ (fun y x => k.near steps y x = true) ys xs

namespace Readback

variable (r : Readback) (rect : ProbeRect) (value : ProbeValue) (steps : UInt32)

/-- The texel at some coordinates is there, and its first components are as many as those of the
    expected value, and of the same kind. -/
def Decodes (x y z : Nat) (got : ProbeValue) : Prop :=
  ∃ texel, r.texel? x y z = some texel ∧
    ∃ (k : ValueKind) (xs ys : List k.Value), value = k.pack xs ∧ got = k.pack ys ∧
      List.Forall₂ (fun i y => k.component? r.format texel i = some y) (List.range xs.length) ys

/-- The texel at some coordinates is decoded into components that are near the expected ones. -/
def Matches (x y z : Nat) : Prop := ∃ got, r.Decodes value x y z got ∧ got.Near steps value

/-- A mismatch is at the first texel of a rectangle that does not match, and says what that is
    decoded into, or has no components if it cannot be decoded. -/
structure IsFirstMismatch (m : ProbeMismatch) : Prop where
  contains : rect.Contains m.x m.y
  not_matches : ¬ r.Matches value steps m.x m.y rect.layer.toNat
  before : ∀ x y, rect.Contains x y → Before x y m.x m.y →
    r.Matches value steps x y rect.layer.toNat
  got : r.Decodes value m.x m.y rect.layer.toNat m.got ∨
    m.got = .u32 [] ∧ ∀ got, ¬ r.Decodes value m.x m.y rect.layer.toNat got
  expected : m.expected = value

variable {r rect value steps} {x y z : Nat} {got : ProbeValue}

/-- What is decoded is what the texel decodes to. -/
theorem decoded?_eq_some_iff : r.decoded? value x y z = some got ↔ r.Decodes value x y z got := by
  obtain ⟨k, xs, rfl⟩ := ValueKind.exists_pack value
  rw [decoded?, Option.bind_eq_some_iff]
  constructor
  · rintro ⟨texel, htexel, hdecode⟩
    obtain ⟨ys, hys, rfl⟩ := ValueKind.decodeLike?_eq_some_iff.mp hdecode
    exact ⟨texel, htexel, k, xs, ys, rfl, rfl, hys⟩
  · rintro ⟨texel, htexel, k', xs', ys, hvalue, rfl, hys⟩
    obtain ⟨rfl, rfl⟩ := ValueKind.pack_inj hvalue
    exact ⟨texel, htexel, ValueKind.decodeLike?_eq_some_iff.mpr ⟨ys, hys, rfl⟩⟩

/-- What is decoded like a value is compared with it component by component. -/
theorem Decodes.matchesWithin_iff (h : r.Decodes value x y z got) :
    got.matchesWithin steps value = true ↔ got.Near steps value := by
  obtain ⟨texel, -, k, xs, ys, rfl, rfl, hys⟩ := h
  have hlength : ys.length = xs.length := by
    rw [← hys.length_eq, List.length_range]
  rw [ValueKind.matchesWithin_pack, ValueKind.allNear_eq_true_iff hlength]
  constructor
  · intro hnear
    exact ⟨k, ys, xs, rfl, rfl, hnear⟩
  · rintro ⟨k', ys', xs', hgot, hvalue, hnear⟩
    obtain ⟨rfl, rfl⟩ := ValueKind.pack_inj hgot
    obtain ⟨_, rfl⟩ := ValueKind.pack_inj hvalue
    exact hnear

/-- A texel has no mismatch if it matches. -/
theorem probeTexel_eq_none_iff_matches :
    r.probeTexel z value steps x y = none ↔ r.Matches value steps x y z := by
  unfold probeTexel
  constructor
  · intro h
    split at h
    · rename_i got hgot
      have hdecodes := decoded?_eq_some_iff.mp hgot
      split at h
      · rename_i hnear
        exact ⟨got, hdecodes, hdecodes.matchesWithin_iff.mp hnear⟩
      · cases h
    · cases h
  · rintro ⟨got, hdecodes, hnear⟩
    rw [decoded?_eq_some_iff.mpr hdecodes]
    exact if_pos (hdecodes.matchesWithin_iff.mpr hnear)

/-- What is said of a texel that does not match. -/
theorem probeTexel_eq_some_iff {m : ProbeMismatch} : r.probeTexel z value steps x y = some m ↔
    ¬ r.Matches value steps x y z ∧ (x = m.x ∧ y = m.y) ∧
      (r.Decodes value x y z m.got ∨ m.got = .u32 [] ∧ ∀ got, ¬ r.Decodes value x y z got) ∧
      m.expected = value := by
  obtain ⟨mx, my, found, expected⟩ := m
  simp only [← probeTexel_eq_none_iff_matches, ← decoded?_eq_some_iff]
  unfold probeTexel
  cases r.decoded? value x y z with
  -- A texel without components is a mismatch with nothing.
  | none =>
    simp only [Option.some.injEq, ProbeMismatch.mk.injEq, reduceCtorEq, not_false_eq_true,
      implies_true, and_true, true_and, false_or]
    constructor
    · rintro ⟨rfl, rfl, rfl, rfl⟩
      exact ⟨⟨rfl, rfl⟩, rfl, rfl⟩
    · rintro ⟨⟨rfl, rfl⟩, rfl, rfl⟩
      exact ⟨rfl, rfl, rfl, rfl⟩
  | some got =>
    dsimp only
    split
    · simp
    · simp only [Option.some.injEq, ProbeMismatch.mk.injEq, reduceCtorEq, not_false_eq_true,
        true_and, forall_eq', and_false, or_false]
      constructor
      · rintro ⟨rfl, rfl, rfl, rfl⟩
        exact ⟨⟨rfl, rfl⟩, rfl, rfl⟩
      · rintro ⟨⟨rfl, rfl⟩, rfl, rfl⟩
        exact ⟨rfl, rfl, rfl, rfl⟩

/-- The mismatch that a probe finds is the first one. -/
theorem isFirstMismatch_iff {m : ProbeMismatch} : r.IsFirstMismatch rect value steps m ↔
    r.probe rect value steps = some m := by
  simp only [probe_eq_some_iff, probeTexel_eq_some_iff, probeTexel_eq_none_iff_matches]
  constructor
  · rintro ⟨hcontains, hmatches, hbefore, hgot, hexpected⟩
    exact ⟨m.x, m.y, hcontains, ⟨hmatches, ⟨rfl, rfl⟩, hgot, hexpected⟩, hbefore⟩
  · rintro ⟨_, _, hcontains, ⟨hmatches, ⟨rfl, rfl⟩, hgot, hexpected⟩, hbefore⟩
    exact ⟨hcontains, hmatches, hbefore, hgot, hexpected⟩

/-! ## Verdicts -/

/-- A probe matches if its search finds nothing. -/
theorem verdict_eq_ok_none_iff :
    r.verdict rect value steps = .ok none ↔ r.probe rect value steps = none := by
  unfold verdict
  cases r.probe rect value steps with
  | none => simp
  | some m => cases htexel : r.texel m.x m.y rect.layer.toNat <;> simp [htexel, Except.map]

/-- A mismatch is told if its texel can be looked for. -/
theorem verdict_eq_ok_some_iff {m : ProbeMismatch} :
    r.verdict rect value steps = .ok (some m) ↔ r.probe rect value steps = some m ∧
      ∃ found, r.texel m.x m.y rect.layer.toNat = .ok found := by
  unfold verdict
  cases r.probe rect value steps with
  | none => simp
  | some m' =>
    rw [map_eq_ok_iff]
    constructor
    · rintro ⟨found, hfound, hm⟩
      obtain rfl := Option.some.inj hm
      exact ⟨rfl, found, hfound⟩
    · rintro ⟨hm, found, hfound⟩
      obtain rfl := Option.some.inj hm
      exact ⟨found, hfound, rfl⟩

/-- A probe breaks off at the texel that its search finds if that one cannot be looked for. -/
theorem verdict_eq_error_iff {e : ArithmeticError} :
    r.verdict rect value steps = .error e ↔ ∃ m, r.probe rect value steps = some m ∧
      r.texel m.x m.y rect.layer.toNat = .error e := by
  unfold verdict
  cases r.probe rect value steps with
  | none => simp
  | some m => cases htexel : r.texel m.x m.y rect.layer.toNat <;> simp [htexel, Except.map]

end Readback

end ShaderConformance
