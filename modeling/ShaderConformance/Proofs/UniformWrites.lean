import ShaderConformance.Proofs.CommandReading
import ShaderConformance.Proofs.Tolerance

/-!
# What the uniform buffer holds

Test lines write into the uniform buffer one after another.  Each byte of it is that of the
last write that covers it, or the fill value; writes only make it longer, and the lines that
are accepted keep it within its largest size.

How far a write grows the buffer is counted in slots of 32 bits, where a part of a slot that the
buffer has does not count.  Writes leave whole groups of four slots behind, so that in the buffer
of a session nothing is lost by that, and its size can be counted in bytes.

## Main definitions

- `UniformWrite`: a write into the buffer, and the bytes that it covers
- `UniformWrite.IsRead`: some test line asks for a write
- `IsGrouped`: a buffer of whole groups of four slots
- `furthest`, `lastByteAt?`: what a sequence of writes covers

## Main statements

- `UniformWrite.isGrouped_apply`, `isGrouped_foldl_write`: writes leave whole groups of slots
- `UniformWrite.length_apply_of_isGrouped`: how far a write grows whole groups of slots
- `length_foldl_write`, `getElem?_foldl_write`: the buffer after a sequence of writes
- `UniformWrite.stop_le_of_isRead`: a write that is read fits
- `uniforms_of_writes`: the buffer of a session after writes that are read
-/

namespace ShaderConformance

/-- A write into the uniform buffer; the offset counts 32-bit words. -/
structure UniformWrite where
  offset : UInt32
  data : List UInt8
deriving DecidableEq, Repr

namespace UniformWrite

/-- The position of the first byte. -/
def start (w : UniformWrite) : Nat := 4 * w.offset.toNat

/-- The position after the last byte. -/
def stop (w : UniformWrite) : Nat := w.start + w.data.length

/-- What is put at a position that the write covers. -/
def byteAt? (w : UniformWrite) (i : Nat) : Option UInt8 :=
  if w.start ≤ i then w.data[i - w.start]? else none

/-- The buffer after the write. -/
def apply (buffer : List UInt8) (w : UniformWrite) : List UInt8 :=
  Uniforms.write buffer w.offset w.data

/-- Some test line asks for the write. -/
def IsRead (w : UniformWrite) : Prop :=
  ∃ context text test,
    TestLine.read context text = .ok (some test) ∧ test.command = .uniform w.offset w.data

end UniformWrite

/-- Where the writes that reach furthest stop. -/
def furthest : List UniformWrite → Nat
  | [] => 0
  | w :: writes => max w.stop (furthest writes)

/-- What the last write that covers a position puts there. -/
def lastByteAt? (writes : List UniformWrite) (i : Nat) : Option UInt8 :=
  writes.reverse.findSome? (·.byteAt? i)

/-- Without writes no byte is written. -/
@[simp] theorem lastByteAt?_nil (i : Nat) : lastByteAt? [] i = none := rfl

/-- A write counts where no later one covers the position. -/
theorem lastByteAt?_cons (w : UniformWrite) (writes : List UniformWrite) (i : Nat) :
    lastByteAt? (w :: writes) i = (lastByteAt? writes i).or (w.byteAt? i) := by
  rw [lastByteAt?, List.reverse_cons, List.findSome?_append]
  congr 1
  cases h : w.byteAt? i <;> simp [List.findSome?, h]

/-! ## Rounding -/

/-- The larger of two sizes is rounded up to the larger result. -/
theorem roundUp_max (m n : Nat) : roundUp (max m n) 16 = max (roundUp m 16) (roundUp n 16) := by
  unfold roundUp
  omega

/-- Larger sizes are rounded up to larger ones. -/
theorem roundUp_mono {m n : Nat} (h : m ≤ n) : roundUp m 16 ≤ roundUp n 16 := by
  unfold roundUp
  omega

/-! ## Slots -/

/-- A buffer of whole groups of four slots. -/
def IsGrouped (buffer : List UInt8) : Prop := 16 ∣ buffer.length

theorem isGrouped_nil : IsGrouped [] := Nat.dvd_zero 16

namespace Uniforms

variable {buffer : List UInt8} {size slots stop : Nat}

/-- The slots for a write cover it. -/
theorem le_slotsFor (size stop : Nat) : stop ≤ slotsFor size stop * 4 := by
  unfold slotsFor slotsOf roundUp
  omega

/-- Whole groups of slots are asked for. -/
theorem dvd_slotsFor (size stop : Nat) : 16 ∣ slotsFor size stop * 4 := by
  unfold slotsFor roundUp
  omega

/-- For whole groups of slots, slots are counted as bytes are: there are the bytes of the buffer
    and those up to the end of the write, rounded up. -/
theorem slotsFor_of_dvd (h : 16 ∣ size) : slotsFor size stop * 4 = max size (roundUp stop 16) := by
  unfold slotsFor slotsOf roundUp
  omega

/-! ## Growing -/

/-- A buffer is padded to a size, and is not cut. -/
theorem length_padTo : (padTo buffer size).length = max buffer.length size := by
  rw [padTo, List.length_append, List.length_replicate]
  omega

/-- A buffer grows to a number of slots, and is not cut. -/
theorem length_growTo : (growTo buffer slots).length = max buffer.length (slots * 4) := by
  unfold growTo
  split
  · exact length_padTo
  · omega

/-- Padding keeps the bytes and fills what is new. -/
theorem getElem?_padTo {i : Nat} (h : i < size) :
    (padTo buffer size)[i]? = some (buffer[i]?.getD fill) := by
  rw [padTo, List.getElem?_append]
  split
  · rename_i hlt
    simp [hlt]
  · rename_i hge
    rw [List.getElem?_replicate_of_lt (by omega), List.getElem?_eq_none (by omega)]
    rfl

/-- So does growing, which leaves a buffer that is long enough as it is. -/
theorem getElem?_growTo {i : Nat} (h : i < (growTo buffer slots).length) :
    (growTo buffer slots)[i]? = some (buffer[i]?.getD fill) := by
  rw [length_growTo] at h
  unfold growTo
  split
  · exact getElem?_padTo (by omega)
  · rw [List.getElem?_eq_getElem (by omega)]
    rfl

/-! ## Overlays -/

/-- What lies within a buffer leaves its length. -/
theorem length_overlay {start : Nat} {data : List UInt8} (h : start + data.length ≤ buffer.length) :
    (overlay buffer start data).length = buffer.length := by
  simp only [overlay, List.length_append, List.length_take, List.length_drop]
  omega

/-- Bytes before and after the data stay. -/
theorem getElem?_overlay {start i : Nat} {data : List UInt8}
    (h : start + data.length ≤ buffer.length) :
    (overlay buffer start data)[i]? =
      if start ≤ i ∧ i < start + data.length then data[i - start]? else buffer[i]? := by
  have htake : (buffer.take start).length = start := List.length_take_of_le (by omega)
  rw [overlay, List.append_assoc]
  by_cases hbefore : i < start
  · rw [List.getElem?_append_left (by omega), List.getElem?_take_of_lt hbefore,
      if_neg (by omega)]
  rw [List.getElem?_append_right (by omega), htake]
  by_cases hdata : i < start + data.length
  · rw [List.getElem?_append_left (by omega), if_pos (by omega)]
  · rw [List.getElem?_append_right (by omega), List.getElem?_drop, if_neg (by omega)]
    congr 1
    omega

end Uniforms

/-! ## A write -/

namespace UniformWrite

variable (buffer : List UInt8) (w : UniformWrite)

/-- The buffer that the bytes are put into. -/
def grown : List UInt8 := Uniforms.growTo buffer (Uniforms.slotsFor buffer.length w.stop)

/-- A write is laid over the buffer that has grown for it. -/
theorem apply_eq_overlay : w.apply buffer = Uniforms.overlay (w.grown buffer) w.start w.data := by
  rw [apply, Uniforms.write, grown, stop, start, Nat.mul_comm]

/-- The buffer is long enough for the bytes when they are put there. -/
theorem stop_le_length_grown : w.stop ≤ (w.grown buffer).length := by
  rw [grown, Uniforms.length_growTo]
  exact Nat.le_trans (Uniforms.le_slotsFor _ _) (Nat.le_max_right _ _)

/-- After a write a buffer has the slots that it needs. -/
theorem length_apply : (w.apply buffer).length =
    max buffer.length (Uniforms.slotsFor buffer.length w.stop * 4) := by
  rw [apply_eq_overlay, Uniforms.length_overlay (w.stop_le_length_grown buffer), grown,
    Uniforms.length_growTo]

/-- A write makes no buffer shorter. -/
theorem le_length_apply : buffer.length ≤ (w.apply buffer).length := by
  rw [length_apply]
  exact Nat.le_max_left _ _

/-- A write lies within the buffer after it. -/
theorem stop_le_length_apply : w.stop ≤ (w.apply buffer).length := by
  rw [length_apply]
  exact Nat.le_trans (Uniforms.le_slotsFor _ _) (Nat.le_max_right _ _)

variable {buffer}

/-- Whole groups of slots are grown to the end of the write, in whole groups. -/
theorem length_apply_of_isGrouped (h : IsGrouped buffer) :
    (w.apply buffer).length = max buffer.length (roundUp w.stop 16) := by
  rw [length_apply, Uniforms.slotsFor_of_dvd h, ← Nat.max_assoc, Nat.max_self]

/-- A write leaves whole groups of slots. -/
theorem isGrouped_apply (h : IsGrouped buffer) : IsGrouped (w.apply buffer) := by
  rw [IsGrouped, w.length_apply]
  obtain hmax | hmax := Nat.le_total buffer.length (Uniforms.slotsFor buffer.length w.stop * 4)
  · rw [Nat.max_eq_right hmax]
    exact Uniforms.dvd_slotsFor _ _
  · rw [Nat.max_eq_left hmax]
    exact h

/-- A write has the bytes of its data from its start on. -/
theorem byteAt?_eq (i : Nat) :
    w.byteAt? i = if w.start ≤ i ∧ i < w.start + w.data.length then w.data[i - w.start]?
      else none := by
  unfold byteAt?
  split
  · split
    · rfl
    · exact List.getElem?_eq_none (by omega)
  · rw [if_neg (by omega)]

/-- A byte after a write is that of the write, or of the buffer, or the fill value. -/
theorem getElem?_apply {i : Nat} (h : i < (w.apply buffer).length) :
    (w.apply buffer)[i]? = some ((w.byteAt? i).getD (buffer[i]?.getD Uniforms.fill)) := by
  have hlength := Uniforms.length_overlay (w.stop_le_length_grown buffer)
  rw [apply_eq_overlay] at h
  rw [byteAt?_eq, apply_eq_overlay, Uniforms.getElem?_overlay (w.stop_le_length_grown buffer)]
  split
  · rename_i hcovers
    have hlt : i - w.start < w.data.length := by omega
    simp [hlt]
  · exact Uniforms.getElem?_growTo (by rwa [hlength] at h)

end UniformWrite

/-! ## A sequence of writes -/

/-- Writes leave whole groups of slots, by induction on the writes. -/
theorem isGrouped_foldl_write (writes : List UniformWrite) {buffer : List UInt8}
    (h : IsGrouped buffer) : IsGrouped (writes.foldl UniformWrite.apply buffer) := by
  induction writes generalizing buffer with
  | nil => exact h
  | cons w writes ih => exact ih (w.isGrouped_apply h)

/-- Writes make no buffer shorter. -/
theorem le_length_foldl_write (writes : List UniformWrite) (buffer : List UInt8) :
    buffer.length ≤ (writes.foldl UniformWrite.apply buffer).length := by
  induction writes generalizing buffer with
  | nil => exact Nat.le_refl _
  | cons w writes ih => exact Nat.le_trans (w.le_length_apply buffer) (ih _)

/-- A buffer of whole groups of slots becomes as long as the furthest write needs, in whole
    groups. -/
theorem length_foldl_write (writes : List UniformWrite) {buffer : List UInt8}
    (h : IsGrouped buffer) : (writes.foldl UniformWrite.apply buffer).length =
      max buffer.length (roundUp (furthest writes) 16) := by
  induction writes generalizing buffer with
  | nil => exact (Nat.max_eq_left (Nat.zero_le _)).symm
  | cons w writes ih =>
    rw [List.foldl_cons, ih (w.isGrouped_apply h), w.length_apply_of_isGrouped h, furthest,
      roundUp_max, Nat.max_assoc]

/-- The last writer wins: a byte that no later write covers is that of the write before, and a
    byte that none covers is the one of the buffer or the fill value. -/
theorem getElem?_foldl_write (writes : List UniformWrite) (buffer : List UInt8) {i : Nat}
    (h : i < (writes.foldl UniformWrite.apply buffer).length) :
    (writes.foldl UniformWrite.apply buffer)[i]? =
      some ((lastByteAt? writes i).getD (buffer[i]?.getD Uniforms.fill)) := by
  induction writes generalizing buffer with
  | nil =>
    rw [List.foldl_nil] at h
    simp [h]
  | cons w writes ih =>
    rw [List.foldl_cons, ih _ h, lastByteAt?_cons]
    have hbyte : (w.apply buffer)[i]?.getD Uniforms.fill =
        (w.byteAt? i).getD (buffer[i]?.getD Uniforms.fill) := by
      by_cases hcovered : i < (w.apply buffer).length
      · rw [w.getElem?_apply hcovered]
        rfl
      · -- Beyond the buffer there is neither a byte of the write nor an older one.
        have hlength := w.le_length_apply buffer
        have hstop := w.stop_le_length_apply buffer
        have hstop' : w.stop = w.start + w.data.length := rfl
        rw [w.byteAt?_eq, if_neg (by omega), List.getElem?_eq_none (by omega),
          List.getElem?_eq_none (by omega)]
        rfl
    rw [hbyte]
    cases lastByteAt? writes i <;> rfl

/-! ## The writes that test lines ask for -/

/-- A write that a test line asks for lies within the largest buffer. -/
theorem UniformWrite.stop_le_of_isRead {w : UniformWrite} (h : w.IsRead) :
    w.stop ≤ maxUniformSize := by
  obtain ⟨context, text, test, hread, hcommand⟩ := h
  have hsound := TestLine.sound_of_read hread
  rw [hcommand] at hsound
  rw [stop, start, Nat.mul_comm]
  exact hsound

/-- No write goes further than a bound of all. -/
theorem furthest_le {writes : List UniformWrite} {bound : Nat} (h : ∀ w ∈ writes, w.stop ≤ bound) :
    furthest writes ≤ bound := by
  induction writes with
  | nil => exact Nat.zero_le _
  | cons w writes ih =>
    rw [List.forall_mem_cons] at h
    exact Nat.max_le.mpr ⟨h.1, ih h.2⟩

/-! ## The buffer of a session -/

section Session

variable {H : Type}

/-- A session after some writes. -/
def Session.written (s : Session H) (writes : List UniformWrite) : Session H :=
  writes.foldl (fun s w => s.writeUniform w.offset w.data) s

/-- Only the buffer is written. -/
theorem Session.written_eq (s : Session H) (writes : List UniformWrite) :
    s.written writes = { s with uniforms := writes.foldl UniformWrite.apply s.uniforms } := by
  induction writes generalizing s with
  | nil => rfl
  | cons w writes ih => exact ih (s.writeUniform w.offset w.data)

variable {s : Session H} {writes : List UniformWrite}

/-- The buffer of a session that has only been written is one of whole groups of slots. -/
theorem isGrouped_written (hempty : s.uniforms = []) : IsGrouped (s.written writes).uniforms := by
  rw [s.written_eq, hempty]
  exact isGrouped_foldl_write writes isGrouped_nil

/-- From an empty buffer, the buffer is as long as the furthest write needs. -/
theorem length_written (hempty : s.uniforms = []) :
    (s.written writes).uniforms.length = roundUp (furthest writes) 16 := by
  rw [s.written_eq, hempty, length_foldl_write writes isGrouped_nil]
  exact Nat.max_eq_right (Nat.zero_le _)

/-- More writes make no buffer shorter. -/
theorem length_written_le_append (s : Session H) (before after : List UniformWrite) :
    (s.written before).uniforms.length ≤ (s.written (before ++ after)).uniforms.length := by
  rw [s.written_eq, s.written_eq, List.foldl_append]
  exact le_length_foldl_write after _

/-- After writes that test lines ask for, an empty buffer has grown to the end of the furthest
    one, in whole groups of four slots and within its largest size; it never became shorter or
    broke a group up, each write found room for its bytes, and every byte is that of the last write
    that covers it or the fill value. -/
theorem uniforms_of_writes (hempty : s.uniforms = []) (hread : ∀ w ∈ writes, w.IsRead) :
    (s.written writes).uniforms.length = roundUp (furthest writes) 16 ∧
      (s.written writes).uniforms.length ≤ maxUniformSize ∧
      (∀ before w after, writes = before ++ w :: after →
        IsGrouped (s.written before).uniforms ∧
        (s.written before).uniforms.length ≤ (s.written (before ++ [w])).uniforms.length ∧
        let grown := Uniforms.growTo (s.written before).uniforms
          (Uniforms.slotsFor (s.written before).uniforms.length w.stop)
        w.stop ≤ grown.length ∧
          (s.written (before ++ [w])).uniforms = Uniforms.overlay grown w.start w.data) ∧
      ∀ i < (s.written writes).uniforms.length,
        (s.written writes).uniforms[i]? =
          some ((lastByteAt? writes i).getD Uniforms.fill) := by
  refine ⟨length_written hempty, ?_, fun before w after _ => ⟨isGrouped_written hempty, ?_, ?_, ?_⟩,
    fun i hi => ?_⟩
  · rw [length_written hempty]
    have hfits : furthest writes ≤ maxUniformSize :=
      furthest_le fun w hw => UniformWrite.stop_le_of_isRead (hread w hw)
    exact roundUp_mono hfits
  · exact length_written_le_append s before [w]
  · exact w.stop_le_length_grown _
  · rw [Session.written, List.foldl_append]
    exact w.apply_eq_overlay _
  · rw [s.written_eq] at hi ⊢
    rw [getElem?_foldl_write writes _ hi, hempty]
    rfl

/-- Two writes, the second of which lies inside the first. -/
def nestedWrites : List UniformWrite := [⟨4, List.replicate 16 0⟩, ⟨6, [7, 0, 0, 0]⟩]

/-- The lines that ask for them. -/
def nestedLines : List Text := ["uniform 4 uint4 0 0 0 0".toList, "uniform 6 uint 7".toList]

/-- Both writes are read from lines. -/
theorem isRead_nestedWrites : ∀ w ∈ nestedWrites, w.IsRead := by
  have hread : nestedLines.map (fun line => (TestLine.read ⟨.oldest, []⟩ line).toOption) =
      nestedWrites.map fun w => some (some ⟨false, false, .uniform w.offset w.data⟩) := by
    decide +kernel
  intro w hw
  obtain ⟨line, -, hline⟩ := List.mem_map.mp (hread ▸ List.mem_map_of_mem hw)
  exact ⟨_, line, _, Step.eq_ok_of_toOption hline, rfl⟩

/-- The first group of words is filled, and the later write shows inside the earlier one. -/
theorem uniforms_nestedWrites :
    let uniforms := ((Session.fresh .plain .run : Session Nat).written nestedWrites).uniforms
    uniforms.length = 32 ∧ uniforms[15]? = some Uniforms.fill ∧ uniforms[16]? = some 0 ∧
      uniforms[24]? = some 7 := by
  obtain ⟨hlength, -, -, hbytes⟩ :=
    uniforms_of_writes (s := (Session.fresh .plain .run : Session Nat)) rfl isRead_nestedWrites
  have hlength : _ = 32 := hlength
  rw [hlength] at hbytes
  exact ⟨hlength, hbytes 15 (by decide), hbytes 16 (by decide), hbytes 24 (by decide)⟩

end Session

end ShaderConformance
