/-!
# Words and bytes

Words are stored with the low byte first.  Arithmetic on words is exact: a result that
its word cannot hold is no result.
-/

namespace ShaderConformance

/-- The bytes of a 32-bit word. -/
def wordBytes (w : UInt32) : List UInt8 :=
  [w.toUInt8, (w >>> 8).toUInt8, (w >>> 16).toUInt8, (w >>> 24).toUInt8]

/-- The bytes of a 64-bit word. -/
def longBytes (w : UInt64) : List UInt8 :=
  wordBytes w.toUInt32 ++ wordBytes (w >>> 32).toUInt32

/-- The number whose bytes these are. -/
def littleEndian : List UInt8 → Nat
  | [] => 0
  | b :: bs => b.toNat + 256 * littleEndian bs

/-! ## Arithmetic -/

/-- Arithmetic without a result: what was to be done with it breaks off. -/
inductive ArithmeticError where
  /-- The result is beyond its word. -/
  | overflow
  | divisionByZero
deriving DecidableEq, Repr

/-- A number as a 32-bit word. -/
def checkedWord (n : Nat) : Except ArithmeticError UInt32 :=
  if n < UInt32.size then .ok (.ofNat n) else .error .overflow

/-- A number as a 64-bit word. -/
def checkedLong (n : Nat) : Except ArithmeticError UInt64 :=
  if n < UInt64.size then .ok (.ofNat n) else .error .overflow

/-- A word is the one of a number if it has that value. -/
theorem checkedWord_eq_ok_iff {n : Nat} {w : UInt32} : checkedWord n = .ok w ↔ w.toNat = n := by
  unfold checkedWord
  split
  · rename_i hfits
    rw [Except.ok.injEq, ← UInt32.toNat_inj, UInt32.toNat_ofNat_of_lt' hfits, eq_comm]
  · rename_i hbeyond
    simp only [reduceCtorEq, false_iff]
    rintro rfl
    exact hbeyond w.toNat_lt

/-- A number that fits is kept. -/
theorem checkedLong_eq_ok_iff {n : Nat} {w : UInt64} : checkedLong n = .ok w ↔ w.toNat = n := by
  unfold checkedLong
  split
  · rename_i hfits
    rw [Except.ok.injEq, ← UInt64.toNat_inj, UInt64.toNat_ofNat_of_lt' hfits, eq_comm]
  · rename_i hbeyond
    simp only [reduceCtorEq, false_iff]
    rintro rfl
    exact hbeyond w.toNat_lt

/-- There is no word for a number that is as large as the number of words. -/
theorem checkedWord_eq_error_iff {n : Nat} {e : ArithmeticError} :
    checkedWord n = .error e ↔ UInt32.size ≤ n ∧ e = .overflow := by
  unfold checkedWord
  split
  · simp only [reduceCtorEq, false_iff]
    omega
  · rename_i hbeyond
    simp [Nat.not_lt.mp hbeyond, eq_comm]

/-- A number that does not fit is an overflow. -/
theorem checkedLong_eq_error_iff {n : Nat} {e : ArithmeticError} :
    checkedLong n = .error e ↔ UInt64.size ≤ n ∧ e = .overflow := by
  unfold checkedLong
  split
  · simp only [reduceCtorEq, false_iff]
    omega
  · rename_i hbeyond
    simp [Nat.not_lt.mp hbeyond, eq_comm]

/-- The least multiple of `step` that is not below `n`. -/
def roundUp (n step : Nat) : Nat := (n + step - 1) / step * step

/-! ## Arrays of bytes -/

/-- Appends a pattern a number of times. -/
def appendCopies (pattern : ByteArray) : (copies : Nat) → ByteArray → ByteArray
  | 0, bytes => bytes
  | copies + 1, bytes => appendCopies pattern copies (bytes ++ pattern)

/-- The first `size` bytes of an endless repetition of a pattern. -/
def repeated (pattern : List UInt8) (size : Nat) : ByteArray :=
  let pattern : ByteArray := ⟨pattern.toArray⟩
  let whole := appendCopies pattern (size / pattern.size) (ByteArray.emptyWithCapacity size)
  whole ++ pattern.extract 0 (size % pattern.size)

/-- Zeros. -/
def zeros (size : Nat) : ByteArray := repeated (List.replicate 64 0) size

/-- Bytes over the front of others, cut to their size. -/
def overFront (data : List UInt8) (bytes : ByteArray) : ByteArray :=
  let front : ByteArray := ⟨(data.take bytes.size).toArray⟩
  front ++ bytes.extract front.size bytes.size

/-- A word has four bytes. -/
@[simp] theorem length_wordBytes (w : UInt32) : (wordBytes w).length = 4 := rfl

/-- A long word has eight bytes. -/
@[simp] theorem length_longBytes (w : UInt64) : (longBytes w).length = 8 := rfl

end ShaderConformance
