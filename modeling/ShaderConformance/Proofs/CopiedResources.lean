import ShaderConformance.Proofs.CreatedResources
import ShaderConformance.Proofs.LiveResources
import ShaderConformance.Proofs.Subresources
import ShaderConformance.Surroundings.Graphics

/-!
# Copies that a run accepts

A run accepts a copy of one resource to another if their descriptions agree but for their names
and the flags of buffers.  So both are textures with the same levels and layers, all of which are
copied, or both are buffers.  But the width of a vertex buffer counts bytes and that of any other
buffer elements: buffers of both kinds that agree in width differ in bytes, and the copy ends
with the shorter one.

## Main definitions

- `ResourceDesc.SameSubresources`, `ResourceDesc.SameUnit`: what two descriptions share
- `Gpu.TextureCopy`, `Gpu.BufferCopy`: what a copy does
- `Gpu.deviceEvents`: what a run goes through on a graphics device

## Main statements

- `Gpu.handle_of_create`: the handle that a backend gives for a description
- `Gpu.submitted_of_copy`: the commands of a copy
- `Gpu.copies_of_deviceEvents`: what an accepted copy of live resources does
-/

namespace ShaderConformance

/-! ## Descriptions -/

namespace ResourceDesc

/-- Two descriptions of the same levels, layers and samples, down to the extents and the bytes of
    each level. -/
structure SameSubresources (s t : ResourceDesc) : Prop where
  isBuffer : s.isBuffer = t.isBuffer
  total : s.subresourceTotal = t.subresourceTotal
  levels : s.levelCount = t.levelCount
  layers : s.layerCount = t.layerCount
  samples : s.sampleCount = t.sampleCount
  extents : ∀ level, Gpu.levelExtent s level = Gpu.levelExtent t level
  layouts : ∀ level, Gpu.levelLayout? s level = Gpu.levelLayout? t level

/-- The widths of two buffers count the same: both count bytes, both elements, or an element is
    a byte. -/
def SameUnit (s t : ResourceDesc) : Prop :=
  (s.type = .vertexBuffer ↔ t.type = .vertexBuffer) ∨ s.texelSize = 1

variable {s t : ResourceDesc}

/-- A copy is only accepted between descriptions that agree but for their names and the flags
    of buffers. -/
theorem alike_of_accepted (h : Step.copyMismatch? s t = none) :
    t = { s with slot := t.slot, type := t.type, isRaw := t.isRaw, isCounter := t.isCounter } := by
  unfold Step.copyMismatch? at h
  split at h
  · cases h
  · rename_i hextents
    split at h
    · cases h
    · rename_i hformat
      split at h
      · cases h
      · rename_i hcounts
        -- The three tests compare all other fields.
        cases s
        cases t
        simp_all

/-- An accepted copy is between the same subresources. -/
theorem sameSubresources_of_accepted (h : Step.copyMismatch? s t = none) :
    s.SameSubresources t := by
  rw [alike_of_accepted h]
  exact ⟨rfl, rfl, rfl, rfl, rfl, fun _ => rfl, fun _ => rfl⟩

/-- An accepted copy is between the same widths. -/
theorem width_of_accepted (h : Step.copyMismatch? s t = none) : t.width = s.width := by
  rw [alike_of_accepted h]

/-- An accepted copy is between texels of the same size. -/
theorem texelSize_of_accepted (h : Step.copyMismatch? s t = none) : t.texelSize = s.texelSize := by
  rw [alike_of_accepted h]

/-- Buffers have the same bytes if and only if their widths count the same. -/
theorem bufferSize_eq_iff (h : Step.copyMismatch? s t = none)
    (hs : s.type ≠ .vertexBuffer → s.width ≠ 0) (ht : t.type ≠ .vertexBuffer → t.width ≠ 0) :
    s.bufferSize = t.bufferSize ↔ s.SameUnit t := by
  rw [width_of_accepted h] at ht
  rw [← UInt64.toNat_inj, toNat_bufferSize, toNat_bufferSize, width_of_accepted h,
    texelSize_of_accepted h, SameUnit, ← UInt32.toNat_inj, UInt32.toNat_one]
  have hbytes (hwidth : s.width ≠ 0) :
      s.width.toNat * s.texelSize.toNat = s.width.toNat ↔ s.texelSize.toNat = 1 :=
    Nat.mul_eq_left fun hzero => hwidth (UInt32.toNat_inj.mp hzero)
  -- Only between a vertex buffer and another buffer do the bytes of an element matter.
  by_cases hsource : s.type = .vertexBuffer <;> by_cases htarget : t.type = .vertexBuffer
  · simp [hsource, htarget]
  · simpa [hsource, htarget, eq_comm] using hbytes (ht htarget)
  · simpa [hsource, htarget] using hbytes (hs hsource)
  · simp [hsource, htarget]

end ResourceDesc

/-- A resource is made by the creation of its description. -/
theorem Event.create?_of_made? {H : Type} {event : Event H} {resource : Resource H}
    {payload : List UInt8} (h : event.made? = some (resource, payload)) :
    event.create? = some (resource.desc, payload) := by
  obtain ⟨⟨session, deed⟩, answer⟩ := event
  cases deed with
  | note => cases h
  | request q =>
    cases q with
    | create desc data =>
      cases answer with
      | ok handle =>
        cases h
        rfl
      | error error => cases h
    | _ => cases h

/-- The source and the target of a copy that is made at an event. -/
def Event.copied? {H : Type} : Event H → Option (Resource H × Resource H)
  | ⟨⟨_, .request (.copy source target)⟩, _⟩ => some (source, target)
  | _ => none

namespace Gpu

open Dialogue

/-! ## Bytes of buffers -/

section Bytes

variable {s t : ResourceDesc} {p q : Nat}

/-- The bytes of a buffer do not overflow. -/
theorem toNat_bufferBytes (d : ResourceDesc) (hpayload : p < UInt64.size / 2) :
    (bufferBytes d p).toNat = roundUp (max (max d.bufferSize.toNat p) 4) 4 := by
  have hwidth := d.width.toNat_lt
  have hproduct := Nat.mul_le_mul (Nat.le_sub_one_of_lt d.width.toNat_lt)
    (Nat.le_sub_one_of_lt d.texelSize.toNat_lt)
  have hsize : d.bufferSize.toNat ≤ 18446744065119617025 := by
    rw [ResourceDesc.toNat_bufferSize]
    split
    · omega
    · exact hproduct
  rw [bufferBytes, UInt64.toNat_ofNat', Nat.mod_eq_of_lt]
  unfold roundUp
  unfold UInt64.size at hpayload
  omega

/-- A buffer has at least the bytes that its description stands for. -/
theorem bufferSize_le_bufferBytes (d : ResourceDesc) (hpayload : p < UInt64.size / 2) :
    d.bufferSize ≤ bufferBytes d p := by
  rw [UInt64.le_iff_toNat_le, toNat_bufferBytes d hpayload]
  unfold roundUp
  omega

/-- Initial contents that the description has room for do not matter. -/
theorem bufferBytes_eq (hsize : s.bufferSize = t.bufferSize) (hp : p ≤ s.bufferSize.toNat)
    (hq : q ≤ t.bufferSize.toNat) : bufferBytes s p = bufferBytes t q := by
  rw [bufferBytes, bufferBytes, Nat.max_eq_left hp, Nat.max_eq_left hq, hsize]

/-- Of buffers with the same bytes, the shorter one has them all. -/
theorem bufferSize_le_min (hsize : s.bufferSize = t.bufferSize) (hp : p < UInt64.size / 2)
    (hq : q < UInt64.size / 2) : s.bufferSize ≤ min (bufferBytes s p) (bufferBytes t q) := by
  have hsource := bufferSize_le_bufferBytes s hp
  have htarget := bufferSize_le_bufferBytes t hq
  rw [← hsize] at htarget
  rw [UInt64.le_iff_toNat_le] at *
  rw [UInt64.toNat_min]
  exact Nat.le_min.mpr ⟨hsource, htarget⟩

/-- The shorter one of a vertex buffer and of another buffer that is as wide, and whose elements
    have more than one byte, has all bytes of both if and only if the shortest buffer has. -/
theorem lt_bufferSize_iff (hs : s.type = .vertexBuffer) (ht : t.type ≠ .vertexBuffer)
    (hwidth : t.width = s.width) (hp : p = s.width.toNat) (hq : q < UInt64.size / 2)
    (htexel : 2 ≤ t.texelSize.toNat) {size : UInt64}
    (hsize : size.toNat = min (bufferBytes s p).toNat (bufferBytes t q).toNat) :
    size < s.bufferSize ∨ size < t.bufferSize ↔ 4 < t.width.toNat * t.texelSize.toNat := by
  have hword := s.width.toNat_lt
  have hsource : s.bufferSize.toNat = s.width.toNat := by
    rw [ResourceDesc.toNat_bufferSize, if_pos hs]
  have htarget : t.bufferSize.toNat = s.width.toNat * t.texelSize.toNat := by
    rw [ResourceDesc.toNat_bufferSize, if_neg ht, hwidth]
  have hmore : s.width.toNat * 2 ≤ s.width.toNat * t.texelSize.toNat :=
    Nat.mul_le_mul_left _ htexel
  have hshort : p < UInt64.size / 2 := by
    unfold UInt64.size
    omega
  rw [toNat_bufferBytes s hshort, toNat_bufferBytes t hq] at hsize
  rw [UInt64.lt_iff_toNat_lt, UInt64.lt_iff_toNat_lt, hsize, hsource, htarget, hwidth, hp]
  unfold roundUp
  omega

end Bytes

/-! ## Handles -/

section Handles

variable {device : Device} {d : ResourceDesc} {payload : List UInt8}
  {calls : List (Dialogue.Event Call.Answer)} {handle : Handle}

/-- A supported format is the one that stands for that of the description. -/
theorem texture?_of_supportedFormat {format : TextureFormat}
    (h : supportedFormat device d = .ok format) : d.format.texture? = some format := by
  unfold supportedFormat at h
  split at h
  · cases h
  · rename_i found hfound
    rw [hfound]
    split at h
    · exact congrArg some (Except.ok.inj h)
    · split at h
      · exact congrArg some (Except.ok.inj h)
      · cases h

/-- A buffer is created with the bytes that its payload needs. -/
theorem handle_of_createBuffer (hrun : (createBuffer d payload).Runs calls (.ok handle)) :
    ∃ object, handle = .buffer ⟨object, bufferBytes d payload.length⟩ := by
  obtain ⟨_, created, _, -, hafter, -⟩ := runs_bind_iff.mp hrun
  cases created with
  | ok object =>
    obtain ⟨-, hhandle⟩ := runs_done_iff.mp hafter
    exact ⟨object, Except.ok.inj hhandle⟩
  | error error => cases (runs_done_iff.mp hafter).2

/-- A texture is created in its format and with its depth or layers. -/
theorem handle_of_createTexture (hrun : (createTexture device d payload).Runs calls (.ok handle)) :
    ∃ object format, d.format.texture? = some format ∧
      handle = .texture ⟨object, format, d.textureDimension, d.textureExtent.depthOrLayers⟩ := by
  unfold createTexture at hrun
  split at hrun
  · cases (runs_done_iff.mp hrun).2
  · rename_i format hformat
    split at hrun
    · cases (runs_done_iff.mp hrun).2
    · obtain ⟨_, created, _, -, hafter, -⟩ := runs_bind_iff.mp hrun
      cases created with
      | ok object =>
        obtain ⟨-, hhandle⟩ := runs_done_iff.mp hafter
        exact ⟨object, format, texture?_of_supportedFormat hformat, Except.ok.inj hhandle⟩
      | error error => cases (runs_done_iff.mp hafter).2

/-- The handle that a backend gives for a description says whether it is a buffer. -/
theorem handle_of_create (hrun : (create device d payload).Runs calls (.ok handle)) :
    (d.isBuffer = true ∧ ∃ object, handle = .buffer ⟨object, bufferBytes d payload.length⟩) ∨
      (d.isBuffer = false ∧ ∃ object format, d.format.texture? = some format ∧
        handle = .texture ⟨object, format, d.textureDimension, d.textureExtent.depthOrLayers⟩) := by
  unfold create at hrun
  split at hrun
  · rename_i hbuffer
    exact .inl ⟨hbuffer, handle_of_createBuffer hrun⟩
  · rename_i htexture
    exact .inr ⟨Bool.eq_false_iff.mpr htexture, handle_of_createTexture hrun⟩

end Handles

/-! ## Commands of copies -/

section Commands

variable {calls : List (Dialogue.Event Call.Answer)} {ok : Bool}

/-- A copy hands over its commands, whatever comes of them. -/
theorem submitted_of_copy {source target : Resource Handle} {commands : List Command}
    (hcommands : copyCommands? source target = some commands)
    (hrun : (copy source target).Runs calls ok) : submitted calls = commands := by
  unfold copy at hrun
  rw [hcommands] at hrun
  obtain ⟨scope, result, after, hscope, hafter, rfl⟩ := runs_bind_iff.mp hrun
  have hfinish := asks_finish (P := fun c => c.commands = []) rfl (fun _ => rfl) "Copy" result
  have hrest : submitted after = [] := List.flatMap_eq_nil_iff.mpr (hfinish hafter)
  obtain ⟨inner, _, error?, hinner, -, rfl⟩ := runs_inErrorScope hscope
  obtain ⟨_, _, rfl, hdone⟩ := runs_question_bind_iff.mp hinner
  obtain ⟨rfl, -⟩ := runs_done_iff.mp hdone
  rw [submitted_append, hrest, List.append_nil]
  simp [submitted, Call.commands]

end Commands

/-! ## Copies -/

/-- What an accepted copy of one texture to another does. -/
structure TextureCopy (source target : Resource Handle) (a b : Texture) : Prop where
  source_handle : source.handle = .texture a
  target_handle : target.handle = .texture b
  format : a.format = b.format
  dimension : a.dimension = b.dimension
  depthOrLayers : a.depthOrLayers = b.depthOrLayers
  /-- All levels of both textures are copied, each as a whole. -/
  commands : ∀ calls ok, (copy source target).Runs calls ok →
    submitted calls = copyLevels source.desc a.object b.object ∧
    submitted calls = copyLevels target.desc a.object b.object

/-- What an accepted copy of one buffer to another does, if they were created with `p` and `q`
    bytes. -/
structure BufferCopy (source target : Resource Handle) (a b : Buffer) (p q : Nat) : Prop where
  source_handle : source.handle = .buffer a
  target_handle : target.handle = .buffer b
  commands : ∀ calls ok, (copy source target).Runs calls ok →
    submitted calls = [.copyBuffer a.object b.object (min a.size b.size)]
  source_size : a.size = bufferBytes source.desc p
  target_size : b.size = bufferBytes target.desc q
  /-- Both descriptions stand for the same bytes if and only if their widths count the same. -/
  bufferSize_eq_iff : source.desc.bufferSize = target.desc.bufferSize ↔
    source.desc.SameUnit target.desc
  /-- Then they are all copied. -/
  covers : source.desc.SameUnit target.desc → p < UInt64.size / 2 → q < UInt64.size / 2 →
    source.desc.bufferSize ≤ min a.size b.size ∧ target.desc.bufferSize ≤ min a.size b.size
  /-- If no initial contents were longer than that, the buffers have nothing else. -/
  size_eq : source.desc.SameUnit target.desc → p ≤ source.desc.bufferSize.toNat →
    q ≤ target.desc.bufferSize.toNat → a.size = b.size
  /-- If the widths count differently, bytes of one buffer are left out, unless they are no more
      than the shortest buffer has. -/
  truncates_iff : source.desc.texelSize ≠ 0 → p < UInt32.size → q < UInt32.size →
    (min a.size b.size < source.desc.bufferSize ∨ min a.size b.size < target.desc.bufferSize ↔
      ¬ source.desc.SameUnit target.desc ∧
        4 < source.desc.width.toNat * source.desc.texelSize.toNat)

section Copies

variable {device : Device} {source target : Resource Handle} {payload payload' : List UInt8}
  {calls calls' : List (Dialogue.Event Call.Answer)}

/-- An accepted copy between textures copies all of their levels. -/
theorem textureCopy_of_accepted (haccepted : Step.copyMismatch? source.desc target.desc = none)
    {object object' : Object .texture} {format format' : TextureFormat}
    (hformat : source.desc.format.texture? = some format)
    (hformat' : target.desc.format.texture? = some format')
    (hsource : source.handle = .texture ⟨object, format, source.desc.textureDimension,
      source.desc.textureExtent.depthOrLayers⟩)
    (htarget : target.handle = .texture ⟨object', format', target.desc.textureDimension,
      target.desc.textureExtent.depthOrLayers⟩) :
    ∃ a b, TextureCopy source target a b := by
  have halike := ResourceDesc.alike_of_accepted haccepted
  have hcommands : copyCommands? source target = some (copyLevels source.desc object object') := by
    rw [copyCommands?, hsource, htarget]
  have hlevels : copyLevels target.desc object object' = copyLevels source.desc object object' := by
    rw [halike]
    rfl
  refine ⟨_, _, hsource, htarget, ?_, ?_, ?_, fun calls ok hrun => ?_⟩
  · rw [halike] at hformat'
    exact Option.some.inj (hformat.symm.trans hformat')
  · rw [halike]
    rfl
  · rw [halike]
    rfl
  · rw [hlevels, submitted_of_copy hcommands hrun]
    exact ⟨rfl, rfl⟩

/-- The payload of a vertex buffer is as long as the buffer is wide. -/
theorem length_of_payload {d : ResourceDesc} (h : d.IsWellFormed payload)
    (hbuffer : d.type = .vertexBuffer) (hlength : payload.length < UInt32.size) :
    payload.length = d.width.toNat := by
  rw [h.payload hbuffer, UInt32.toNat_ofNat_of_lt' hlength]

/-- An accepted copy between buffers copies the bytes of the smaller one. -/
theorem bufferCopy_of_accepted (haccepted : Step.copyMismatch? source.desc target.desc = none)
    (hformed : source.desc.IsWellFormed payload) (hformed' : target.desc.IsWellFormed payload')
    {object object' : Object .buffer}
    (hsource : source.handle = .buffer ⟨object, bufferBytes source.desc payload.length⟩)
    (htarget : target.handle = .buffer ⟨object', bufferBytes target.desc payload'.length⟩) :
    ∃ a b, BufferCopy source target a b payload.length payload'.length := by
  have hcommands : copyCommands? source target = some [.copyBuffer object object'
      (min (bufferBytes source.desc payload.length)
        (bufferBytes target.desc payload'.length))] := by
    rw [copyCommands?, hsource, htarget]
  have hwidth := ResourceDesc.width_of_accepted haccepted
  have htexel := ResourceDesc.texelSize_of_accepted haccepted
  have hsame : source.desc.bufferSize = target.desc.bufferSize ↔
      source.desc.SameUnit target.desc :=
    ResourceDesc.bufferSize_eq_iff haccepted hformed.width hformed'.width
  have hcovers (hunit : source.desc.SameUnit target.desc)
      (hp : payload.length < UInt64.size / 2) (hq : payload'.length < UInt64.size / 2) :
      source.desc.bufferSize ≤ min (bufferBytes source.desc payload.length)
          (bufferBytes target.desc payload'.length) ∧
        target.desc.bufferSize ≤ min (bufferBytes source.desc payload.length)
          (bufferBytes target.desc payload'.length) := by
    have hsize := hsame.mpr hunit
    exact ⟨bufferSize_le_min hsize hp hq, hsize ▸ bufferSize_le_min hsize hp hq⟩
  refine ⟨_, _, hsource, htarget, fun calls ok hrun => submitted_of_copy hcommands hrun, rfl, rfl,
    hsame, hcovers, fun hunit hp hq => bufferBytes_eq (hsame.mpr hunit) hp hq, ?_⟩
  intro hnonzero hp hq
  have hlong : UInt32.size ≤ UInt64.size / 2 := by decide
  by_cases hunit : source.desc.SameUnit target.desc
  · obtain ⟨hleft, hright⟩ := hcovers hunit (by omega) (by omega)
    refine iff_of_false (fun hless => ?_) fun h => h.1 hunit
    obtain hless | hless := hless
    · exact absurd hless (UInt64.not_lt.mpr hleft)
    · exact absurd hless (UInt64.not_lt.mpr hright)
  · obtain ⟨hkinds, hone⟩ := not_or.mp hunit
    have hmore : 2 ≤ source.desc.texelSize.toNat := by
      rw [Ne, ← UInt32.toNat_inj] at hnonzero
      rw [← UInt32.toNat_inj] at hone
      have hzero : UInt32.toNat 0 = 0 := rfl
      have hone' : UInt32.toNat 1 = 1 := rfl
      omega
    rw [and_iff_right hunit]
    -- One of both is a vertex buffer, which has the bytes of its initial contents.
    by_cases hbuffer : source.desc.type = .vertexBuffer
    · have hother : target.desc.type ≠ .vertexBuffer := fun h => hkinds (iff_of_true hbuffer h)
      rw [← htexel] at hmore ⊢
      rw [← hwidth]
      exact lt_bufferSize_iff hbuffer hother hwidth (length_of_payload hformed hbuffer hp)
        (by omega) hmore (UInt64.toNat_min _ _)
    · have hother : target.desc.type = .vertexBuffer := by
        by_contra h
        exact hkinds (iff_of_false hbuffer h)
      rw [or_comm]
      exact lt_bufferSize_iff hother hbuffer hwidth.symm (length_of_payload hformed' hother hq)
        (by omega) hmore ((UInt64.toNat_min _ _).trans (Nat.min_comm _ _))

/-- What an accepted copy does to resources that a backend made of well-formed descriptions. -/
theorem copies_of_create (haccepted : Step.copyMismatch? source.desc target.desc = none)
    (hformed : source.desc.IsWellFormed payload) (hformed' : target.desc.IsWellFormed payload')
    (hrun : (create device source.desc payload).Runs calls (.ok source.handle))
    (hrun' : (create device target.desc payload').Runs calls' (.ok target.handle)) :
    (∃ a b, TextureCopy source target a b) ∨
      ∃ a b, BufferCopy source target a b payload.length payload'.length := by
  have hkind := (ResourceDesc.sameSubresources_of_accepted haccepted).isBuffer
  obtain ⟨hbuffer, object, hsource⟩ | ⟨htexture, object, format, hformat, hsource⟩ :=
    handle_of_create hrun
  · obtain ⟨-, object', htarget⟩ | ⟨htexture, -⟩ := handle_of_create hrun'
    · exact .inr (bufferCopy_of_accepted haccepted hformed hformed' hsource htarget)
    · rw [hkind, htexture] at hbuffer
      cases hbuffer
  · obtain ⟨hbuffer, -⟩ | ⟨-, object', format', hformat', htarget⟩ := handle_of_create hrun'
    · rw [hkind, hbuffer] at htexture
      cases htexture
    · exact .inl (textureCopy_of_accepted haccepted hformat hformat' hsource htarget)

end Copies

/-! ## Runs on a device -/

section Runs

variable {S : Type} (answers : (c : Call) → S → c.Answer × S) (device : Device)
  (compiler : CompilerOn (World S)) (context : RunContext) (text : Text) (world : World S)

/-- What a run of a file goes through on a graphics device. -/
def deviceEvents : List (ShaderConformance.Event Handle) :=
  (runFile Handle context text).transcript (surroundings answers device compiler).moments world

/-- The events of a device are a run of the file. -/
theorem runs_deviceEvents : (runFile Handle context text).Runs
    (deviceEvents answers device compiler context text world)
    (runFileWith (surroundings answers device compiler) context text world).1 :=
  runs_transcript _ _ _

variable {answers device compiler context text world}

/-- On a device, a run gets its handles from `create`. -/
theorem create_of_made : ∀ event ∈ deviceEvents answers device compiler context text world,
    ∀ resource payload, event.made? = some (resource, payload) →
      ∃ calls, (create device resource.desc payload).Runs calls (.ok resource.handle) := by
  refine forall_mem_transcript ?_ _ _
  rintro ⟨session, deed⟩ world resource payload hmade
  cases deed with
  | note => cases hmade
  | request q =>
    cases q with
    | create desc data =>
      -- Of the requests, only a creation makes a resource, and its calls are a run of it.
      have hruns := runs_transcript (kept answers) (create device desc data) world
      generalize hresult : ((create device desc data).answer (kept answers) world).1 = result
        at hruns
      have hmade : Event.made? ⟨⟨session, .request (.create desc data)⟩, result⟩ =
          some (resource, payload) := hresult ▸ hmade
      cases result with
      | ok handle =>
        cases hmade
        exact ⟨_, hruns⟩
      | error error => cases hmade
    | _ => cases hmade

/-- Whatever lives was made by the device for a well-formed description. -/
theorem create_of_live {event : ShaderConformance.Event Handle}
    (hevent : event ∈ deviceEvents answers device compiler context text world)
    {resource : Resource Handle} (hlive : resource ∈ event.live) :
    ∃ payload calls,
      IsMadeOf (deviceEvents answers device compiler context text world) resource payload ∧
      (create device resource.desc payload).Runs calls (.ok resource.handle) ∧
      resource.desc.IsWellFormed payload := by
  have hruns := runs_deviceEvents answers device compiler context text world
  obtain ⟨payload, made, hmember, hmade⟩ := isMade_of_runs hruns event hevent resource hlive
  obtain ⟨calls, hcreate⟩ := create_of_made made hmember resource payload hmade
  obtain ⟨lines, hdescribes⟩ :=
    describes_of_runs hruns made hmember resource.desc payload (Event.create?_of_made? hmade)
  exact ⟨payload, calls, ⟨made, hmember, hmade⟩, hcreate, hdescribes.isWellFormed⟩

/-- Whatever a device answers, a copy of two resources that live in a run is only accepted if they
    have the same subresources.  They are two textures, all levels of which are copied; or they
    are two buffers, made of some initial contents, of which the bytes of the shorter one are
    copied.  Those are all bytes of both descriptions if their widths count the same, and otherwise
    too few unless elements have no bytes, or all of them have no more than four. -/
theorem copies_of_deviceEvents :
    ∀ event ∈ deviceEvents answers device compiler context text world,
      ∀ source ∈ event.live, ∀ target ∈ event.live,
        Step.copyMismatch? source.desc target.desc = none →
          source.desc.SameSubresources target.desc ∧
          ((∃ a b, TextureCopy source target a b) ∨
            ∃ a b payload payload',
              IsMadeOf (deviceEvents answers device compiler context text world) source payload ∧
              IsMadeOf (deviceEvents answers device compiler context text world) target payload' ∧
              BufferCopy source target a b payload.length payload'.length) := by
  intro event hevent source hsource target htarget haccepted
  obtain ⟨payload, calls, hmade, hcreate, hformed⟩ := create_of_live hevent hsource
  obtain ⟨payload', calls', hmade', hcreate', hformed'⟩ := create_of_live hevent htarget
  refine ⟨ResourceDesc.sameSubresources_of_accepted haccepted, ?_⟩
  obtain htextures | ⟨a, b, hbuffers⟩ :=
    copies_of_create haccepted hformed hformed' hcreate hcreate'
  · exact .inl htextures
  · exact .inr ⟨a, b, payload, payload', hmade, hmade', hbuffers⟩

end Runs

/-- A file that copies a buffer to a vertex buffer that has as many bytes as that has elements. -/
def mixedCopy : Text :=
  "[vb 0]\n1 2 3 4\n[srv 0]\nsize (buffer, 16)\n[test]\ncopy srv 0 vb 0\n".toList

/-- What a run of that file goes through on a simulated device. -/
def mixedEvents : List (ShaderConformance.Event Handle) :=
  deviceEvents
    (Simulated.answer ⟨none, false, fun _ => false, fun _ => false, fun _ => false, fun _ => false⟩)
    plainDevice
    (.scripted ⟨fun _ => false, fun _ => false, fun _ => false, true, fun _ => .wgsl, fun _ => []⟩)
    ⟨"mixed", .run, .plain⟩ mixedCopy ⟨.fresh, []⟩

/-- The source, of 16 elements. -/
def mixedSource : Resource Handle :=
  ⟨{ ResourceDesc.fresh .texture 0 with dimension := .buffer, width := 16 }, .buffer ⟨⟨1⟩, 256⟩⟩

/-- The target, of 16 bytes. -/
def mixedTarget : Resource Handle :=
  ⟨{ ResourceDesc.fresh .vertexBuffer 0 with width := 16 }, .buffer ⟨⟨0⟩, 16⟩⟩

/-- The run makes the copy, which leaves out most of the source. -/
theorem copies_mixedCopy : ∃ event ∈ mixedEvents,
    event.copied? = some (mixedSource, mixedTarget) ∧
    mixedSource.desc.SameSubresources mixedTarget.desc ∧
    ∃ a b p q, BufferCopy mixedSource mixedTarget a b p q ∧
      (min a.size b.size).toNat = 16 ∧ mixedSource.desc.bufferSize.toNat = 256 := by
  have hcopies : (mixedEvents.filterMap fun e => e.copied?.map fun copied => (copied, e.live)) =
      [((mixedSource, mixedTarget), [mixedTarget, mixedSource])] := by decide +kernel
  obtain ⟨event, hevent, hmap⟩ := List.mem_filterMap.mp
    (hcopies ▸ List.mem_singleton_self ((mixedSource, mixedTarget), [mixedTarget, mixedSource]))
  obtain ⟨copied, hcopied, heq⟩ := Option.map_eq_some_iff.mp hmap
  obtain ⟨rfl, hlive⟩ := Prod.mk.inj heq
  obtain ⟨hshape, ⟨a, b, htextures⟩ | ⟨a, b, payload, payload', -, -, hbuffers⟩⟩ :=
    copies_of_deviceEvents event hevent mixedSource (by simp [hlive]) mixedTarget (by simp [hlive])
      (by decide)
  · cases htextures.source_handle
  · refine ⟨event, hevent, hcopied, hshape, a, b, _, _, hbuffers, ?_, by decide⟩
    cases hbuffers.source_handle
    cases hbuffers.target_handle
    decide

end Gpu

end ShaderConformance
