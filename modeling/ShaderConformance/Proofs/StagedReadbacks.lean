import ShaderConformance.Proofs.CopiedResources
import ShaderConformance.Proofs.Encodings
import ShaderConformance.Proofs.TexelAddresses

/-!
# Buffers that contents go through

Contents of resources go to a device and come back through buffers whose sizes are computed with
words.  A buffer for a resource has room for its elements and its payload, and its size does not
overflow.  A staging buffer for a level has padded rows, and its size overflows for some volumes
whose unpadded bytes can be counted: then nothing is read.  Where it does not, what comes back has
room for all texels, as has what comes back from a buffer.

## Main definitions

- `Gpu.MapsWhole`: buffers are mapped with all the bytes that they were created with
- `Gpu.IsLevelOf`: contents have the extents of a level
- `Gpu.IsSizedFor`: a size that a buffer for a description and a payload can have

## Main statements

- `Gpu.isLeast_roundUp`: what a size is rounded up to
- `Gpu.contents_of_readTexture`, `Gpu.contents_of_readBuffer`: what comes back
- `Gpu.texels_of_readback`: the texels of what comes back from a texture
- `Gpu.stagingSize_eq_ok_iff`: when a staging buffer has a size
- `Gpu.breaksOff_of_readTexture`: what happens if it has none
- `Gpu.sizes_of_buffers`: the sizes of buffers for resources and for levels
-/

namespace ShaderConformance.Gpu

open Dialogue

/-! ## Rounding up -/

/-- A size is rounded up to the least multiple of the step that is not below it. -/
theorem isLeast_roundUp {step : ℕ} (hstep : 0 < step) (n : ℕ) :
    IsLeast {m | step ∣ m ∧ n ≤ m} (roundUp n step) := by
  have hdiv := Nat.div_add_mod' (n + step - 1) step
  have hmod := Nat.mod_lt (n + step - 1) hstep
  refine ⟨⟨Nat.dvd_mul_left _ _, by unfold roundUp; omega⟩, ?_⟩
  rintro _ ⟨⟨k, rfl⟩, hn⟩
  have hlt : (n + step - 1) / step < k + 1 := by
    rw [Nat.div_lt_iff_lt_mul hstep, Nat.add_one_mul, Nat.mul_comm k]
    omega
  rw [roundUp, Nat.mul_comm step]
  exact Nat.mul_le_mul_right _ (Nat.le_of_lt_succ hlt)

/-! ## Mapped buffers -/

/-- The buffers that a device created, with their sizes. -/
def createdBuffers (events : List (Dialogue.Event Call.Answer)) : List (Object .buffer × ℕ) :=
  events.filterMap fun
    | ⟨.createBuffer desc, buffer⟩ => some (buffer, desc.size.toNat)
    | _ => none

/-- The buffers that a device gave the bytes of, with the number of these. -/
def mappedBuffers (events : List (Dialogue.Event Call.Answer)) : List (Object .buffer × ℕ) :=
  events.filterMap fun
    | ⟨.mapped buffer, data⟩ => some (buffer, data.size)
    | _ => none

/-- A mapped buffer has all the bytes that it was created with. -/
def MapsWhole (events : List (Dialogue.Event Call.Answer)) : Prop :=
  ∀ created ∈ createdBuffers events, ∀ mapped ∈ mappedBuffers events,
    created.1 = mapped.1 → mapped.2 = created.2

instance (events : List (Dialogue.Event Call.Answer)) : Decidable (MapsWhole events) :=
  inferInstanceAs (Decidable (∀ created ∈ createdBuffers events, ∀ mapped ∈ mappedBuffers events,
    created.1 = mapped.1 → mapped.2 = created.2))

/-- Buffers are created in order. -/
@[simp] theorem createdBuffers_append (before after : List (Dialogue.Event Call.Answer)) :
    createdBuffers (before ++ after) = createdBuffers before ++ createdBuffers after :=
  List.filterMap_append

/-- Buffers are mapped in order. -/
@[simp] theorem mappedBuffers_append (before after : List (Dialogue.Event Call.Answer)) :
    mappedBuffers (before ++ after) = mappedBuffers before ++ mappedBuffers after :=
  List.filterMap_append

section Staging

variable {events : List (Dialogue.Event Call.Answer)} {size : UInt64}
  {command : Object .buffer → Command} {data : ByteArray}

/-- The bytes of a staging buffer are those that it was mapped with. -/
theorem mem_mappedBuffers_of_readMapped {staging : Object .buffer}
    (hrun : (readMapped staging).Runs events (some data)) :
    (staging, data.size) ∈ mappedBuffers events := by
  obtain ⟨_, rest, rfl, hrest⟩ := runs_question_bind_iff.mp hrun
  obtain ⟨polled, finished, after, -, hafter, rfl⟩ := runs_bind_iff.mp hrest
  split at hafter
  · obtain ⟨bytes, _, rfl, hunmap⟩ := runs_question_bind_iff.mp hafter
    obtain ⟨_, _, rfl, hdone⟩ := runs_question_bind_iff.mp hunmap
    obtain ⟨rfl, hdata⟩ := runs_done_iff.mp hdone
    obtain rfl := Option.some.inj hdata
    simp [mappedBuffers]
  · cases (runs_done_iff.mp hafter).2

/-- What comes back through a staging buffer has its size. -/
theorem size_of_readStaging (hrun : (readStaging size command).Runs events (some data))
    (hmaps : MapsWhole events) : data.size = size.toNat := by
  obtain ⟨scope, created, after, hscope, hafter, rfl⟩ := runs_bind_iff.mp hrun
  cases created with
  | error error =>
    obtain ⟨_, _, rfl, hdone⟩ := runs_question_bind_iff.mp hafter
    cases (runs_done_iff.mp hdone).2
  | ok staging =>
    obtain ⟨inner, value, error?, hinner, hresult, rfl⟩ := runs_inErrorScope hscope
    -- The buffer that is read is the one that was created.
    obtain ⟨buffer, _, rfl, hsubmit⟩ := runs_question_bind_iff.mp hinner
    obtain ⟨_, _, rfl, hdone⟩ := runs_question_bind_iff.mp hsubmit
    obtain ⟨rfl, rfl⟩ := runs_done_iff.mp hdone
    cases error? with
    | some error => cases hresult
    | none =>
      obtain rfl := Except.ok.inj hresult
      have hmapped := mem_mappedBuffers_of_readMapped hafter
      refine hmaps (staging, size.toNat) ?_ (staging, data.size) ?_ rfl
      · simp [createdBuffers]
      · rw [mappedBuffers_append]
        exact List.mem_append_right _ hmapped

end Staging

/-! ## What comes back -/

section Contents

variable {d : ResourceDesc} {level subresource : UInt32} {layout : LevelLayout} {pitch : UInt32}
  {t : Texture} {b : Buffer} {events : List (Dialogue.Event Call.Answer)} {r : Readback}

/-- The layout of a level has its extents, and its rows and bytes can be counted. -/
structure IsLevelLayoutOf (layout : LevelLayout) (d : ResourceDesc) (level : UInt32) : Prop where
  width : layout.width = d.levelWidth level
  height : layout.height = d.levelHeight level
  depth : layout.depth = levelSlices d level
  row : layout.row.toNat = layout.width.toNat * d.texelSize.toNat
  countable : layout.row.toNat * layout.height.toNat * layout.depth.toNat < UInt64.size

/-- A layout that is found is one of the level. -/
theorem isLevelLayoutOf_levelLayout? (h : levelLayout? d level = some layout) :
    IsLevelLayoutOf layout d level := by
  simp only [levelLayout?, Option.bind_eq_bind, Option.bind_eq_some_iff, Option.pure_def,
    Option.some.injEq] at h
  obtain ⟨row, hrow, size, hsize, rfl⟩ := h
  simp only [checkedProduct, Option.ite_none_right_eq_some, Option.some.injEq] at hrow
  simp only [addressable, Option.ite_none_right_eq_some, Option.some.injEq] at hsize
  obtain ⟨hfits, rfl⟩ := hrow
  refine ⟨rfl, rfl, rfl, ?_, hsize.1⟩
  rw [UInt32.toNat_mul, Nat.mod_eq_of_lt hfits]

/-- The padded bytes of a row are the least aligned number with room for it. -/
theorem isLeast_of_rowPitch? {row : UInt32} (h : rowPitch? row = some pitch) :
    IsLeast {m | 256 ∣ m ∧ row.toNat ≤ m} pitch.toNat := by
  simp only [rowPitch?, Option.ite_none_right_eq_some, Option.some.injEq] at h
  obtain ⟨hword, rfl⟩ := h
  rw [UInt32.toNat_ofNat_of_lt' hword]
  exact isLeast_roundUp (by decide) _

/-- Contents are those of a level: they have its extents, and its texels. -/
structure IsLevelOf (r : Readback) (d : ResourceDesc) (level : UInt32) : Prop where
  width : r.width = d.levelWidth level
  height : r.height = d.levelHeight level
  depth : r.depth = levelSlices d level
  texelSize : r.texelSize = d.texelSize.toNat

/-- The size of a staging buffer is exact, and there is none if it cannot be counted. -/
theorem stagingSize_eq_ok_iff {height depth : UInt32} {size : UInt64} :
    stagingSize pitch height depth = .ok size ↔
      size.toNat = pitch.toNat * height.toNat * depth.toNat :=
  checkedLong_eq_ok_iff

/-- A staging size that does not fit is an overflow. -/
theorem stagingSize_eq_error_iff {height depth : UInt32} {e : ArithmeticError} :
    stagingSize pitch height depth = .error e ↔
      UInt64.size ≤ pitch.toNat * height.toNat * depth.toNat ∧ e = .overflow :=
  checkedLong_eq_error_iff

/-- What comes back from a level has the extents of its layout, rows of the pitch, and as many bytes
    as its staging buffer. -/
theorem contents_of_readLevel {place : Place} {size : UInt64}
    (hrun : (readLevel d place layout pitch size).Runs events (some r))
    (hmaps : MapsWhole events) :
    r.width = layout.width ∧ r.height = layout.height ∧ r.depth = layout.depth ∧
      r.texelSize = d.texelSize.toNat ∧ r.rowPitch = pitch.toNat ∧ r.data.size = size.toNat := by
  obtain ⟨before, data?, after, hstaging, hdone, rfl⟩ := runs_bind_iff.mp hrun
  obtain ⟨rfl, hcontents⟩ := runs_done_iff.mp hdone
  obtain ⟨data, rfl, rfl⟩ := Option.map_eq_some_iff.mp hcontents.symm
  rw [List.append_nil] at hmaps
  exact ⟨rfl, rfl, rfl, rfl, rfl, size_of_readStaging hstaging hmaps⟩

/-- What comes back from a texture is a level with all of its padded rows, which can be counted. -/
theorem contents_of_readTexture (hrun : (readTexture d t subresource).Runs events (.ok (some r)))
    (hmaps : MapsWhole events) :
    IsLevelOf r d (subresourceLevel d subresource) ∧
      ∃ row pitch size, row.toNat = r.width.toNat * r.texelSize ∧ rowPitch? row = some pitch ∧
        r.rowPitch = pitch.toNat ∧ stagingSize pitch r.height r.depth = .ok size ∧
        r.data.size = size.toNat := by
  unfold readTexture at hrun
  -- On all paths but the last there are no contents.
  split at hrun
  · obtain ⟨_, _, rfl, hdone⟩ := runs_question_bind_iff.mp hrun
    cases (runs_done_iff.mp hdone).2
  split at hrun
  · cases (runs_done_iff.mp hrun).2
  unfold readSubresource at hrun
  split at hrun
  · cases (runs_done_iff.mp hrun).2
  rename_i layout hlayout
  split at hrun
  · cases (runs_done_iff.mp hrun).2
  rename_i pitch hpitch
  split at hrun
  · cases (runs_done_iff.mp hrun).2
  rename_i size hsize
  obtain ⟨before, contents, after, hlevel, hdone, rfl⟩ := runs_bind_iff.mp hrun
  obtain ⟨rfl, hcontents⟩ := runs_done_iff.mp hdone
  obtain rfl := Except.ok.inj hcontents
  rw [List.append_nil] at hmaps
  obtain ⟨hwidth, hheight, hdepth, htexel, hrow, hdata⟩ := contents_of_readLevel hlevel hmaps
  have hof := isLevelLayoutOf_levelLayout? hlayout
  refine ⟨⟨hwidth.trans hof.width, hheight.trans hof.height, hdepth.trans hof.depth, htexel⟩,
    layout.row, pitch, size, ?_, hpitch, hrow, ?_, hdata⟩
  · rw [hwidth, htexel, hof.row]
  · rw [hheight, hdepth, hsize]

/-- What comes back from a buffer is one row, as long as the buffer. -/
theorem contents_of_readBuffer (hrun : (readBuffer d b).Runs events (some r))
    (hmaps : MapsWhole events) :
    r.width = d.width ∧ r.height = 1 ∧ r.depth = 1 ∧ r.texelSize = d.texelSize.toNat ∧
      r.rowPitch = r.data.size ∧ r.data.size = b.size.toNat := by
  obtain ⟨before, data?, after, hstaging, hdone, rfl⟩ := runs_bind_iff.mp hrun
  obtain ⟨rfl, hcontents⟩ := runs_done_iff.mp hdone
  obtain ⟨data, rfl, rfl⟩ := Option.map_eq_some_iff.mp hcontents.symm
  rw [List.append_nil] at hmaps
  exact ⟨rfl, rfl, rfl, rfl, rfl, size_of_readStaging hstaging hmaps⟩

/-- What comes back from a texture has room for all texels, and its rows are padded as little as
    they can be. -/
theorem isPadded_of_readTexture (hrun : (readTexture d t subresource).Runs events (.ok (some r)))
    (hmaps : MapsWhole events) :
    r.IsPadded ∧ IsLevelOf r d (subresourceLevel d subresource) ∧
      IsLeast {m | 256 ∣ m ∧ r.width.toNat * r.texelSize ≤ m} r.rowPitch := by
  obtain ⟨hlevel, row, pitch, size, hrow, hpitch, hpitch', hsize, hbytes⟩ :=
    contents_of_readTexture hrun hmaps
  have hleast : IsLeast {m | 256 ∣ m ∧ r.width.toNat * r.texelSize ≤ m} r.rowPitch := by
    rw [hpitch', ← hrow]
    exact isLeast_of_rowPitch? hpitch
  have hdata : r.data.size = r.rowPitch * r.height.toNat * r.depth.toNat := by
    rw [hpitch', hbytes]
    exact stagingSize_eq_ok_iff.mp hsize
  have hcountable : r.rowPitch * r.height.toNat * r.depth.toNat < UInt64.size := by
    rw [← hdata, hbytes]
    exact size.toNat_lt
  exact ⟨⟨hleast.1.2, hdata.ge, hcountable⟩, hlevel, hleast⟩

/-- A texture whose padded rows cannot be counted is not read. -/
theorem breaksOff_of_readTexture {result : Except ArithmeticError (Option Readback)}
    (hlayout : levelLayout? d (subresourceLevel d subresource) = some layout)
    (hpitch : rowPitch? layout.row = some pitch)
    (hmany : UInt64.size ≤ pitch.toNat * layout.height.toNat * layout.depth.toNat)
    (hreadable : ¬ (1 < d.sampleCount ∨ t.format = .depth24PlusStencil8))
    (hrun : (readTexture d t subresource).Runs events result) :
    events = [] ∧ ∃ e, result = .error e := by
  have hsize : stagingSize pitch layout.height layout.depth = .error .overflow :=
    stagingSize_eq_error_iff.mpr ⟨hmany, rfl⟩
  rw [readTexture, if_neg hreadable] at hrun
  split at hrun
  · obtain ⟨rfl, rfl⟩ := runs_done_iff.mp hrun
    exact ⟨rfl, _, rfl⟩
  · simp only [readSubresource, hlayout, hpitch, hsize] at hrun
    obtain ⟨rfl, rfl⟩ := runs_done_iff.mp hrun
    exact ⟨rfl, _, rfl⟩

end Contents

/-- Contents with room for all texels have a texel exactly within the extents, with its own bytes
    that no other texel shares.  Whatever a device answers, what comes back from a texture is such
    contents if buffers are mapped as a whole, and from row to row it has the least multiple of 256
    bytes with room for a row. -/
theorem texels_of_readback :
    (∀ r : Readback, r.IsPadded → r.Addresses) ∧
    ∀ {d t subresource events r},
      (readback ⟨d, .texture t⟩ subresource).Runs events (.ok (some r)) → MapsWhole events →
      r.IsPadded ∧ IsLevelOf r d (subresourceLevel d subresource) ∧
        IsLeast {m | 256 ∣ m ∧ r.width.toNat * r.texelSize ≤ m} r.rowPitch :=
  ⟨fun _ => Readback.addresses_of_isPadded, isPadded_of_readTexture⟩

/-- A volume of rows with three texels of four bytes. -/
def narrowVolume : ResourceDesc :=
  { ResourceDesc.fresh .uav 0 with
    dimension := .texture3d, format := .r32Float, texelSize := 4, width := 3, height := 2
    depth := 2 }

/-- Reading the volume back. -/
def readNarrowVolume : Program (Except ArithmeticError (Option Readback)) :=
  readback ⟨narrowVolume, .texture ⟨⟨0⟩, .r32Float, .d3, 2⟩⟩ 0

/-- What comes back on a device on which nothing fails. -/
def contents? (program : Program (Except ArithmeticError (Option Readback))) : Option Readback :=
  (simulatedValue program).toOption.join

/-- What has contents has come to a readback. -/
theorem exists_contents {program : Program (Except ArithmeticError (Option Readback))}
    (h : (contents? program).isSome = true) : ∃ r, simulatedValue program = .ok (some r) := by
  obtain ⟨r, hr⟩ := Option.isSome_iff_exists.mp h
  rw [contents?, Option.join_eq_some_iff] at hr
  cases hvalue : simulatedValue program with
  | ok contents =>
    rw [hvalue] at hr
    exact ⟨r, congrArg _ (Option.some.inj hr)⟩
  | error =>
    rw [hvalue] at hr
    cases hr

/-- Its rows come back 256 bytes apart, and its texels are found. -/
theorem texels_of_readback_narrowVolume : ∃ r,
    readNarrowVolume.Runs (simulatedCalls readNarrowVolume) (.ok (some r)) ∧
      MapsWhole (simulatedCalls readNarrowVolume) ∧ r.rowPitch = 256 ∧
      r.IsPadded ∧ r.Addresses ∧ (r.texel? 2 1 1).isSome = true ∧
      IsLeast {m | 256 ∣ m ∧ r.width.toNat * r.texelSize ≤ m} r.rowPitch := by
  have hrun := runs_simulated readNarrowVolume
  have hmaps : MapsWhole (simulatedCalls readNarrowVolume) := by decide +kernel
  obtain ⟨r, hr⟩ := exists_contents (show (contents? readNarrowVolume).isSome by decide +kernel)
  -- The run's answer is evaluated once, for its extents and the pitch of its rows.
  have hextents : (contents? readNarrowVolume).map
      (fun r => (r.width, r.height, r.depth, r.rowPitch)) = some (3, 2, 2, 256) := by decide +kernel
  rw [hr] at hrun
  rw [contents?, hr] at hextents
  obtain ⟨hwidth, hheight, hdepth, hpitch⟩ :
      r.width = 3 ∧ r.height = 2 ∧ r.depth = 2 ∧ r.rowPitch = 256 := by
    simpa [Except.toOption] using hextents
  obtain ⟨haddresses, hread⟩ := texels_of_readback
  obtain ⟨hpadded, -, hleast⟩ := hread hrun hmaps
  have hin : r.Within 2 1 1 := by
    constructor
    · rw [hwidth]; decide
    · rw [hheight]; decide
    · rw [hdepth]; decide
  exact ⟨r, hrun, hmaps, hpitch, hpadded, haddresses r hpadded,
    ((haddresses r hpadded).isSome_iff 2 1 1).mpr hin, hleast⟩

/-! ## Sizes -/

/-- A size that a buffer for a description and a payload can have: whole words, and not fewer than
    either asks for. -/
structure IsSizedFor (size : ℕ) (d : ResourceDesc) (payload : List UInt8) : Prop where
  eq : size = roundUp (max (max (if d.type = .vertexBuffer then d.width.toNat
    else d.width.toNat * d.texelSize.toNat) payload.length) 4) 4
  words : 4 ∣ size
  four_le : 4 ≤ size
  payload : (paddedPayload payload).length ≤ size
  elements : d.type ≠ .vertexBuffer → d.width.toNat * d.texelSize.toNat ≤ size

section Sizes

variable {d : ResourceDesc} {payload : List UInt8} {level subresource : UInt32}
  {layout : LevelLayout} {pitch : UInt32} {calls events : List (Dialogue.Event Call.Answer)}
  {device : Device} {handle : Handle} {r : Readback}

/-- A payload is padded to the least number of whole words. -/
theorem length_paddedPayload (payload : List UInt8) :
    (paddedPayload payload).length = roundUp payload.length 4 := by
  have hle : payload.length ≤ roundUp payload.length 4 := (isLeast_roundUp (by decide) _).1.2
  rw [paddedPayload, List.length_append, List.length_replicate]
  omega

/-- The bytes of a buffer are sized for its description and its payload. -/
theorem isSizedFor_bufferBytes (d : ResourceDesc) (hpayload : payload.length < UInt64.size / 2) :
    IsSizedFor (bufferBytes d payload.length).toNat d payload := by
  have heq := toNat_bufferBytes d hpayload
  rw [ResourceDesc.toNat_bufferSize] at heq
  obtain ⟨hwords, hle⟩ := (isLeast_roundUp (show 0 < 4 by decide) _).1
  rw [← heq] at hwords hle
  refine ⟨heq, hwords, by omega, ?_, fun hother => ?_⟩
  · -- The size is a multiple of a word with room for the payload, and the payload is padded to
    -- the least one.
    rw [length_paddedPayload]
    exact (isLeast_roundUp (by decide) _).2 ⟨hwords, by omega⟩
  · rw [if_neg hother] at hle
    omega

/-- The only buffer that is created for a description has its size. -/
theorem createdBuffers_of_createBuffer {result : Except BackendError Handle}
    (hrun : (createBuffer d payload).Runs calls result) :
    ∃ buffer, createdBuffers calls = [(buffer, (bufferBytes d payload.length).toNat)] := by
  obtain ⟨scope, created, after, hscope, hafter, rfl⟩ := runs_bind_iff.mp hrun
  obtain rfl : after = [] := by
    cases created with
    | ok => exact (runs_done_iff.mp hafter).1
    | error => exact (runs_done_iff.mp hafter).1
  obtain ⟨inner, value, error?, hinner, -, rfl⟩ := runs_inErrorScope hscope
  obtain ⟨buffer, rest, rfl, hrest⟩ := runs_question_bind_iff.mp hinner
  -- A payload is written, and then the scope is closed.
  have hnone : createdBuffers rest = [] := by
    dsimp only at hrest
    split at hrest
    · obtain ⟨rfl, -⟩ := runs_done_iff.mp hrest
      rfl
    · obtain ⟨_, _, rfl, hdone⟩ := runs_question_bind_iff.mp hrest
      obtain ⟨rfl, -⟩ := runs_done_iff.mp hdone
      rfl
  refine ⟨buffer, ?_⟩
  simpa [createdBuffers] using hnone

/-- Every element of a buffer of elements comes back. -/
theorem addresses_of_buffer (hpayload : payload.length < UInt64.size / 2)
    (hbuffer : d.isBuffer = true) (hother : d.type ≠ .vertexBuffer)
    (hcreate : (create device d payload).Runs calls (.ok handle))
    (hrun : (readback ⟨d, handle⟩ subresource).Runs events (.ok (some r)))
    (hmaps : MapsWhole events) :
    r.Addresses ∧ ∀ x < d.width.toNat, (r.texel? x 0 0).isSome = true := by
  obtain ⟨-, object, rfl⟩ | ⟨htexture, -⟩ := handle_of_create hcreate
  · obtain ⟨before, contents, after, hbytes, hdone, rfl⟩ := runs_bind_iff.mp hrun
    obtain ⟨rfl, hcontents⟩ := runs_done_iff.mp hdone
    obtain rfl := Except.ok.inj hcontents
    rw [List.append_nil] at hmaps
    obtain ⟨hwidth, hheight, hdepth, htexel, hpitch, hsize⟩ := contents_of_readBuffer hbytes hmaps
    have hsized := isSizedFor_bufferBytes d hpayload
    -- A buffer is one row of elements, so its pitch and slices are its size.
    have hpadded : r.IsPadded := by
      constructor
      · rw [hwidth, htexel, hpitch, hsize]
        exact hsized.elements hother
      · rw [hheight, hdepth, hpitch]
        simp
      · rw [hheight, hdepth, hpitch, hsize]
        simpa using UInt64.toNat_lt _
    have haddresses := Readback.addresses_of_isPadded hpadded
    refine ⟨haddresses, fun x hx => (haddresses.isSome_iff x 0 0).mpr ⟨?_, ?_, ?_⟩⟩
    · rwa [hwidth]
    · rw [hheight]
      decide
    · rw [hdepth]
      decide
  · rw [hbuffer] at htexture
    cases htexture

/-- Padded bytes that cannot be counted are those of a volume whose rows are not aligned. -/
theorem volume_of_not_countable (hlayout : levelLayout? d level = some layout)
    (hpitch : rowPitch? layout.row = some pitch)
    (hmany : UInt64.size ≤ pitch.toNat * layout.height.toNat * layout.depth.toNat) :
    d.dimension = .texture3d ∧ ¬ 256 ∣ layout.row.toNat := by
  have hof := isLevelLayoutOf_levelLayout? hlayout
  constructor
  · by_contra hother
    have hword : pitch.toNat * layout.height.toNat ≤ (UInt32.size - 1) * (UInt32.size - 1) :=
      Nat.mul_le_mul (Nat.le_sub_one_of_lt pitch.toNat_lt)
        (Nat.le_sub_one_of_lt layout.height.toNat_lt)
    rw [hof.depth, levelSlices, if_neg hother, UInt32.toNat_one, Nat.mul_one] at hmany
    exact absurd (Nat.lt_of_le_of_lt hword (by decide)) (Nat.not_lt.mpr hmany)
  · intro haligned
    -- An aligned row is not padded, and the bytes without padding can be counted.
    have hle := (isLeast_of_rowPitch? hpitch).2 ⟨haligned, Nat.le_refl _⟩
    have hunpadded := Nat.mul_le_mul_right layout.depth.toNat
      (Nat.mul_le_mul_right layout.height.toNat hle)
    exact absurd (hmany.trans hunpadded) (Nat.not_le.mpr hof.countable)

end Sizes

/-- The size of a buffer for a resource does not overflow, and every element of a buffer of
    elements can be found in what comes back.  The size of a staging buffer is the product of the
    padded row, the rows and the slices if that can be counted, as it can be unless the level is
    of a volume whose rows are not aligned.  If it cannot be counted, there is no size, and reading
    the level back breaks off before anything is asked of the device. -/
theorem sizes_of_buffers (d : ResourceDesc) :
    (∀ {payload}, payload.length < UInt64.size / 2 →
      (∀ {calls result}, (createBuffer d payload).Runs calls result →
        ∃ buffer size, createdBuffers calls = [(buffer, size)] ∧ IsSizedFor size d payload) ∧
      ∀ {device calls handle subresource events r}, d.isBuffer = true → d.type ≠ .vertexBuffer →
        (create device d payload).Runs calls (.ok handle) →
        (readback ⟨d, handle⟩ subresource).Runs events (.ok (some r)) → MapsWhole events →
        r.Addresses ∧ ∀ x < d.width.toNat, (r.texel? x 0 0).isSome = true) ∧
    ∀ {level layout pitch}, levelLayout? d level = some layout →
      rowPitch? layout.row = some pitch →
      (∀ size, stagingSize pitch layout.height layout.depth = .ok size ↔
        size.toNat = pitch.toNat * layout.height.toNat * layout.depth.toNat) ∧
      (UInt64.size ≤ pitch.toNat * layout.height.toNat * layout.depth.toNat →
        stagingSize pitch layout.height layout.depth = .error .overflow ∧
        d.dimension = .texture3d ∧ ¬ 256 ∣ layout.row.toNat ∧
        ∀ {t subresource events result}, subresourceLevel d subresource = level →
          ¬ (1 < d.sampleCount ∨ t.format = .depth24PlusStencil8) →
          (readback ⟨d, .texture t⟩ subresource).Runs events result →
          events = [] ∧ ∃ e, result = .error e) := by
  refine ⟨fun hpayload => ⟨fun hrun => ?_, addresses_of_buffer hpayload⟩,
    fun hlayout hpitch => ⟨fun _ => stagingSize_eq_ok_iff, fun hmany => ?_⟩⟩
  · obtain ⟨buffer, hcreated⟩ := createdBuffers_of_createBuffer hrun
    exact ⟨buffer, _, hcreated, isSizedFor_bufferBytes _ hpayload⟩
  · obtain ⟨hvolume, hrow⟩ := volume_of_not_countable hlayout hpitch hmany
    refine ⟨stagingSize_eq_error_iff.mpr ⟨hmany, rfl⟩, hvolume, hrow, ?_⟩
    rintro t subresource events result rfl hreadable hrun
    exact breaksOff_of_readTexture hlayout hpitch hmany hreadable hrun

/-- A volume of columns of one texel, whose bytes without padding can be counted. -/
def deepVolume : ResourceDesc :=
  { ResourceDesc.fresh .uav 0 with
    dimension := .texture3d, format := .r32Float, texelSize := 4, width := 1
    height := 2147483648, depth := 33554432 }

/-- Three elements of four bytes. -/
def threeElements : ResourceDesc :=
  { ResourceDesc.fresh .uav 0 with
    dimension := .buffer, format := .unknown, texelSize := 4, width := 3, isRaw := false }

/-- How a buffer for the elements is created, with a payload of one byte. -/
def createThree : Program (Except BackendError Handle) := createBuffer threeElements [5]

/-- The handle of this buffer. -/
def threeHandle : Handle := .buffer ⟨⟨0⟩, 12⟩

/-- How the buffer comes back. -/
def readThree : Program (Except ArithmeticError (Option Readback)) :=
  readback ⟨threeElements, threeHandle⟩ 0

/-- How the volume comes back. -/
def readDeepVolume : Program (Except ArithmeticError (Option Readback)) :=
  readback ⟨deepVolume, .texture ⟨⟨0⟩, .r32Float, .d3, 33554432⟩⟩ 0

/-- Lines that describe the volume are accepted, the size of its staging buffer overflows, and
    nothing is asked of the device.  The last of three elements comes back, although the payload
    is shorter. -/
theorem sizes_of_buffers_deepVolume :
    (deepVolume.IsAccepted ∧
      levelLayout? deepVolume 0 = some ⟨1, 2147483648, 33554432, 4, 288230376151711744⟩ ∧
      rowPitch? 4 = some 256 ∧ stagingSize 256 2147483648 33554432 = .error .overflow ∧
      deepVolume.dimension = .texture3d ∧ ¬ 256 ∣ (4 : UInt32).toNat ∧
      simulatedCalls readDeepVolume = [] ∧ ∃ e, simulatedValue readDeepVolume = .error e) ∧
    (createdBuffers (simulatedCalls createThree) = [(⟨0⟩, 12)] ∧
      IsSizedFor 12 threeElements [5]) ∧
    ∃ r, simulatedValue readThree = .ok (some r) ∧ (r.texel? 2 0 0).isSome = true := by
  have haccepted : deepVolume.IsAccepted :=
    ⟨.uav, 0, ["format r32-float".toList, "size (3d, 1, 2147483648, 33554432)".toList],
      ⟨deepVolume, [], true⟩, rfl, rfl⟩
  have hlayout : levelLayout? deepVolume 0 =
      some ⟨1, 2147483648, 33554432, 4, 288230376151711744⟩ := by decide +kernel
  have hpitch : rowPitch? 4 = some 256 := by decide
  obtain ⟨-, hstaging⟩ := sizes_of_buffers deepVolume
  obtain ⟨hsize, hvolume, hrow, hbreaks⟩ := (hstaging hlayout hpitch).2 (by decide)
  have hnothing := hbreaks (show subresourceLevel deepVolume 0 = 0 by decide) (by decide)
    (runs_simulated readDeepVolume)
  -- The elements, on a device on which nothing fails.
  have hcreate := runs_simulated createThree
  have hrun := runs_simulated readThree
  have hmaps : MapsWhole (simulatedCalls readThree) := by decide +kernel
  have hhandle : simulatedValue createThree = .ok threeHandle := rfl
  obtain ⟨r, hr⟩ := exists_contents (show (contents? readThree).isSome by decide +kernel)
  rw [hhandle] at hcreate
  rw [hr] at hrun
  obtain ⟨hbuffers, -⟩ := sizes_of_buffers threeElements
  obtain ⟨hcreated, hread⟩ := hbuffers (show [5].length < UInt64.size / 2 by decide)
  have hsized : IsSizedFor 12 threeElements [5] := by
    obtain ⟨buffer, size, hbuffer, hsized⟩ := hcreated hcreate
    have htwelve : createdBuffers (simulatedCalls createThree) = [(⟨0⟩, 12)] := by
      decide +kernel
    obtain ⟨-, rfl⟩ : buffer = ⟨0⟩ ∧ size = 12 := by simpa [htwelve, eq_comm] using hbuffer
    exact hsized
  have hdevice : (create plainDevice threeElements [5]).Runs
      (simulatedCalls createThree) (.ok threeHandle) := hcreate
  have hfound := (hread (by decide) (by decide) hdevice hrun hmaps).2
  exact ⟨⟨haccepted, hlayout, hpitch, hsize, hvolume, hrow, hnothing⟩, ⟨by decide +kernel, hsized⟩,
    r, hr, hfound 2 (by decide)⟩

end ShaderConformance.Gpu
