import ShaderConformance.Command.Reading
import ShaderConformance.Proofs.Results

/-!
# Commands that are read

Readers refuse commands that could not be executed: uniforms that would not fit in the largest
buffer, and probes that would compare nothing.

## Main definitions

- `Command.IsSound`: a command keeps to these limits

## Main statements

- `Probe.length_of_value`: an expected value that is read has a component
- `Probe.isNonempty_of_rectangle`: a rectangle that is read has a texel
- `Command.read_sound`: every command that is read is sound
- `TestLine.sound_of_read`: so is the command of every test line that is read
-/

namespace ShaderConformance

/-- A rectangle with a texel. -/
structure ProbeRect.IsNonempty (rect : ProbeRect) : Prop where
  columns : rect.left.toNat < rect.right.toNat
  rows : rect.top.toNat < rect.bottom.toNat

/-- A uniform fits in the largest buffer, and a probe compares a component of a texel. -/
def Command.IsSound : Command → Prop
  | uniform offset data => offset.toNat * 4 + data.length ≤ maxUniformSize
  | probe _ rect value _ => rect.IsNonempty ∧ 0 < value.length
  | _ => True

/-! ## Probes -/

namespace Probe

variable {text : Text} {rect : ProbeRect}

/-- The coordinates after those of a texel do not overflow. -/
theorem isNonempty_of_point? {x y layer : UInt32} (h : ProbeRect.point? x y layer = some rect) :
    rect.IsNonempty := by
  unfold ProbeRect.point? at h
  split at h
  · rename_i hrange
    obtain ⟨hx, hy⟩ := hrange
    obtain rfl := Option.some.inj h
    have hnext {w : UInt32} (hw : w.toNat + 1 < UInt32.size) : w.toNat < (w + 1).toNat := by
      rw [UInt32.toNat_add, UInt32.toNat_one, Nat.mod_eq_of_lt hw]
      omega
    exact ⟨hnext hx, hnext hy⟩
  · cases h

/-- A rectangle that is read has texels. -/
theorem isNonempty_of_rectangle {coordinates : List UInt32}
    (h : rectangle text coordinates = .ok rect) : rect.IsNonempty := by
  unfold rectangle at h
  dsimp only at h
  split at h
  · split at h
    · cases h
    · rename_i hrange
      obtain rfl := Except.ok.inj h
      simp only [UInt32.le_iff_toNat_le, not_or, Nat.not_le] at hrange
      exact ⟨hrange.1, hrange.2⟩
  -- The other coordinates are those of a single texel.
  iterate 3
    · split at h
      · rename_i hsome
        obtain rfl := Except.ok.inj h
        exact isNonempty_of_point? hsome
      · cases h
  · cases h

/-- No fewer values are read than asked for. -/
theorem length_of_values {T : Type} {kind : String} {read? : Text → Option T} {fewest most : Nat}
    {list : List T} (h : values kind read? fewest most text = .ok list) : fewest ≤ list.length := by
  unfold values at h
  split at h
  · cases h
  · split at h
    · rename_i hcount
      obtain rfl := Except.ok.inj h
      exact hcount.1
    · cases h

/-- A reader that asks for one value at least finds one. -/
theorem length_of_reader {T : Type} {kind : String} {read? : Text → Option T} {fewest most : Nat}
    {pack : List T → ProbeValue} (hpack : ∀ list, (pack list).length = list.length)
    (hfewest : 1 ≤ fewest) {value : ProbeValue}
    (h : (values kind read? fewest most text).map pack = .ok value) : 0 < value.length := by
  obtain ⟨list, hlist, rfl⟩ := map_eq_ok_iff.mp h
  rw [hpack]
  exact Nat.le_trans hfewest (length_of_values hlist)

theorem length_of_valueReaders : ∀ entry ∈ valueReaders, ∀ {text value},
    entry.2 text = .ok value → 0 < value.length := by
  simp only [valueReaders, List.forall_mem_cons]
  refine ⟨?_, ?_, ?_, ?_, ?_, ?_, ?_, nofun⟩ <;> intro text value h <;>
    exact length_of_reader (fun _ => rfl) (by decide) h

/-- An expected value that is read has a component. -/
theorem length_of_value {type : Text} {v : ProbeValue} (h : value type text = .ok v) :
    0 < v.length := by
  unfold value at h
  split at h
  · rename_i found
    exact length_of_valueReaders _ (List.mem_of_find?_eq_some found) h
  · cases h

end Probe

/-! ## Commands -/

namespace Command

/-- Every command that a reader can give is sound. -/
def AllSound (result : Except Fault Command) : Prop :=
  ∀ command, result = .ok command → command.IsSound

namespace AllSound

variable {T : Type}

/-- A sound command is all that is read. -/
theorem ok {command : Command} (h : command.IsSound) : AllSound (.ok command) := by
  rintro _ ⟨⟩
  exact h

/-- A fault is no command. -/
theorem error (fault : Fault) : AllSound (.error fault) := nofun

/-- What goes on soundly with every value that is read is sound. -/
theorem bind_of {x : Except Fault T} {f : T → Except Fault Command}
    (h : ∀ value, x = .ok value → AllSound (f value)) : AllSound (x >>= f) := by
  cases x with
  | error fault => exact error fault
  | ok value => exact h value rfl

/-- What goes on soundly with every value is sound. -/
theorem bind {x : Except Fault T} {f : T → Except Fault Command} (h : ∀ value, AllSound (f value)) :
    AllSound (x >>= f) :=
  bind_of fun value _ => h value

/-- It does not matter what stands behind a command. -/
theorem ending {command : Command} (rest : Text) (h : command.IsSound) :
    AllSound (Command.ending command rest) := by
  unfold Command.ending
  cases Text.endOfLine rest with
  | error fault => exact error fault
  | ok _ => exact ok h

end AllSound

/-- The reader refuses a write that would not fit. -/
theorem uniformLine_sound (line : Text) : AllSound (uniformLine line) := by
  refine .bind fun _ => .bind fun _ => .bind fun _ => .bind fun _ => ?_
  split
  · exact .error _
  · refine .ok ?_
    simp only [IsSound]
    omega

/-- The reader of probes refuses a rectangle or a value in which there is nothing to compare. -/
theorem probe_sound (line : Text) : AllSound (Probe.read line) := by
  refine .bind fun (_, _) => ?_
  dsimp only
  split
  · exact .error _
  · exact .bind fun _ => .bind_of fun _ hrect => .bind_of fun _ hvalue => .bind fun _ =>
      .ok ⟨Probe.isNonempty_of_rectangle hrect, Probe.length_of_value hvalue⟩

/-- Every depth function is sound. -/
theorem depthFuncLine_sound (line : Text) : AllSound (depthFuncLine line) := by
  unfold depthFuncLine
  split
  · exact .ending _ trivial
  · exact .bind fun _ => .ending _ trivial

/-- Every alpha test is sound. -/
theorem alphaTestLine_sound (line : Text) : AllSound (alphaTestLine line) := by
  unfold alphaTestLine
  split
  · exact .ending _ trivial
  · exact .bind fun _ => .bind fun _ => .ending _ trivial

/-- Every clip plane is sound. -/
theorem clipPlaneLine_sound (line : Text) : AllSound (clipPlaneLine line) := by
  refine .bind fun (_, _) => ?_
  dsimp only
  split
  · split
    · exact .ending _ trivial
    · exact .bind fun _ => .ending _ trivial
  · exact .error _

/-- Every setting of point sprites is sound. -/
theorem pointSpriteLine_sound (line : Text) : AllSound (pointSpriteLine line) := by
  unfold pointSpriteLine
  split
  · exact .ending _ trivial
  · exact .error _

/-- Every viewport is sound. -/
theorem viewportLine_sound (line : Text) : AllSound (viewportLine line) := by
  refine .bind fun (_, _) => ?_
  dsimp only
  split
  · exact .bind fun _ => .bind fun _ => .ending _ trivial
  · exact .error _

/-- Of the other commands nothing is said, so their readers only have to be taken apart. -/
theorem readers_sound : ∀ entry ∈ readers, ∀ line, AllSound (entry.2 line) := by
  simp only [readers, List.forall_mem_cons]
  refine ⟨fun _ => .bind fun _ => .bind fun _ => .bind fun _ => .ending _ trivial,
    fun _ => .bind fun _ => .bind fun _ => .ending _ trivial,
    fun _ => .bind fun _ => .ending _ trivial, fun _ => .bind fun _ => .ending _ trivial,
    depthFuncLine_sound, (.ending · trivial),
    fun _ => .bind fun _ => .bind fun _ => .bind fun _ => .ending _ trivial,
    fun _ => .bind fun _ => .bind fun _ => .ending _ trivial, probe_sound, uniformLine_sound,
    fun _ => .bind fun _ => .ending _ trivial, alphaTestLine_sound,
    fun _ => .bind fun _ => .ending _ trivial, clipPlaneLine_sound,
    fun _ => .bind fun _ => .ending _ trivial, pointSpriteLine_sound,
    fun _ => .bind fun _ => .ending _ trivial, fun _ => .bind fun _ => .ending _ trivial,
    viewportLine_sound, nofun⟩

/-- Every command that is read is sound. -/
theorem read_sound (line : Text) : AllSound (Command.read line) := by
  unfold Command.read
  split
  · rename_i result hfound
    obtain ⟨⟨keyword, reader⟩, hmem, hresult⟩ := List.exists_of_findSome?_eq_some hfound
    obtain ⟨rest, -, rfl⟩ := Option.map_eq_some_iff.mp hresult
    exact readers_sound _ hmem rest
  · exact .error _

end Command

namespace TestLine

/-- The command of a line is read from what its qualifiers leave. -/
theorem exists_read_of_readWith {context : QualifierContext} {todo bug : Bool} {line : Text}
    {test : TestLine} (h : readWith context todo bug line = .ok (some test)) :
    ∃ rest, Command.read rest = .ok test.command := by
  -- The induction is on the qualifiers in front of the command.
  fun_induction readWith context todo bug line with
  | case1 | case6 => cases h
  | case2 todo bug line =>
    cases hread : Command.read line with
    | error fault => simp [hread, Except.map] at h
    | ok command =>
      simp only [hread, Except.map, Except.ok.injEq, Option.some.injEq] at h
      exact ⟨line, by rw [hread, ← h]⟩
  | case3 _ _ _ _ _ _ ih | case4 _ _ _ _ _ _ ih | case5 _ _ _ _ _ _ _ ih => exact ih h

/-- The command of a test line that is read is sound. -/
theorem sound_of_read {context : QualifierContext} {line : Text} {test : TestLine}
    (h : read context line = .ok (some test)) : test.command.IsSound := by
  obtain ⟨rest, hrest⟩ := exists_read_of_readWith h
  exact Command.read_sound rest _ hrest

end TestLine

end ShaderConformance
