import ShaderConformance.Proofs.AcceptedBlocks
import ShaderConformance.Proofs.Programs
import ShaderConformance.Proofs.Step

/-!
# The numbers of subresources

A subresource has a level and a layer, and its number is a word in which levels vary fastest.
The layers of a resource may be as many as a word can count, so the numbers of all its
subresources fit in words only if their count does.  A subresource whose number does not fit
has none, and a probe of its layer breaks off before anything is read.

## Main definitions

- `ResourceDesc.Fits`, `ResourceDesc.Distinct`, `ResourceDesc.Recovers`: what numbers are to do
- `Gpu.readPlaces`: the places from which texels were read
- `IsProbed`: what the texels of a place are compared for

## Main statements

- `ResourceDesc.fits_iff`: every subresource has a number if a word can count them all
- `ResourceDesc.recovers`, `ResourceDesc.distinct`: the numbers that there are belong to one
  level and one layer
- `Gpu.readPlaces_of_readTexture`: a texture is read at the place of the subresource only
- `asks_or_breaksOff_of_readProbe`: a probe of a layer asks for its number or for nothing
- `subresources_of_accepted`: the numbers of an accepted block, and the layers that probes read
-/

namespace ShaderConformance

/-! ## Numbers -/

namespace ResourceDesc

variable (d : ResourceDesc)

/-- A level and a layer that a described resource has. -/
structure Has (level layer : UInt32) : Prop where
  level_lt : level.toNat < d.levelCount.toNat
  layer_lt : layer.toNat < d.layerCount.toNat

/-- The place of a level of a layer among the subresources, as a number of any size. -/
def subresourceNumber (level layer : UInt32) : Nat :=
  layer.toNat * d.levelCount.toNat + level.toNat

/-- The number of subresources, which may be more than a word. -/
def subresourceTotal : Nat := d.levelCount.toNat * d.layerCount.toNat

/-- Every subresource has a number. -/
def Fits : Prop := ∀ level layer, d.Has level layer →
  ∃ index, d.subresourceIndex level layer = .ok index

/-- Different subresources have different numbers. -/
def Distinct : Prop := ∀ level layer level' layer' index, d.Has level layer →
  d.Has level' layer' → d.subresourceIndex level layer = .ok index →
    d.subresourceIndex level' layer' = .ok index → level = level' ∧ layer = layer'

/-- The level and the layer are found again from the number. -/
def Recovers : Prop := ∀ level layer index, d.Has level layer →
  d.subresourceIndex level layer = .ok index →
    Gpu.subresourceLevel d index = level ∧ Gpu.subresourceLayer d index = layer

variable {d} {level layer index : UInt32}

/-- The number is the exact one. -/
theorem subresourceIndex_eq_ok_iff :
    d.subresourceIndex level layer = .ok index ↔ index.toNat = d.subresourceNumber level layer :=
  checkedWord_eq_ok_iff

/-- There is no number if no word holds the exact one. -/
theorem subresourceIndex_eq_error_iff {e : ArithmeticError} :
    d.subresourceIndex level layer = .error e ↔
      UInt32.size ≤ d.subresourceNumber level layer ∧ e = .overflow :=
  checkedWord_eq_error_iff

/-- There is a number if a word holds the exact one. -/
theorem exists_subresourceIndex_iff :
    (∃ index, d.subresourceIndex level layer = .ok index) ↔
      d.subresourceNumber level layer < UInt32.size := by
  simp only [subresourceIndex_eq_ok_iff]
  constructor
  · rintro ⟨index, hindex⟩
    exact hindex ▸ index.toNat_lt
  · intro hfits
    exact ⟨.ofNat (d.subresourceNumber level layer), UInt32.toNat_ofNat_of_lt' hfits⟩

/-- The exact number of a subresource is less than their count. -/
theorem Has.number_lt (h : d.Has level layer) :
    d.subresourceNumber level layer < d.subresourceTotal := by
  have hlayer : (layer.toNat + 1) * d.levelCount.toNat ≤ d.layerCount.toNat * d.levelCount.toNat :=
    Nat.mul_le_mul_right _ h.layer_lt
  have hlevel := h.level_lt
  rw [Nat.add_one_mul] at hlayer
  rw [subresourceNumber, subresourceTotal, Nat.mul_comm d.levelCount.toNat]
  omega

/-- So is the number that is computed. -/
theorem Has.index_lt (h : d.Has level layer)
    (hindex : d.subresourceIndex level layer = .ok index) :
    index.toNat < d.subresourceTotal := by
  rw [subresourceIndex_eq_ok_iff.mp hindex]
  exact h.number_lt

/-- The level is the remainder of the number. -/
theorem subresourceLevel_index (hlevel : level.toNat < d.levelCount.toNat)
    (hindex : d.subresourceIndex level layer = .ok index) :
    Gpu.subresourceLevel d index = level := by
  rw [← UInt32.toNat_inj, Gpu.subresourceLevel, UInt32.toNat_mod,
    subresourceIndex_eq_ok_iff.mp hindex, subresourceNumber, Nat.mul_add_mod_self_right,
    Nat.mod_eq_of_lt hlevel]

/-- The layer is the quotient of the number. -/
theorem subresourceLayer_index (hlevel : level.toNat < d.levelCount.toNat)
    (hindex : d.subresourceIndex level layer = .ok index) :
    Gpu.subresourceLayer d index = layer := by
  have hpos : 0 < d.levelCount.toNat := Nat.zero_lt_of_lt hlevel
  rw [← UInt32.toNat_inj, Gpu.subresourceLayer, UInt32.toNat_div,
    subresourceIndex_eq_ok_iff.mp hindex, subresourceNumber, Nat.mul_comm, Nat.mul_add_div hpos,
    Nat.div_eq_of_lt hlevel, Nat.add_zero]

/-- Whatever has a number is found again from it. -/
theorem recovers (d : ResourceDesc) : d.Recovers := fun _ _ _ hhas hindex =>
  ⟨subresourceLevel_index hhas.level_lt hindex, subresourceLayer_index hhas.level_lt hindex⟩

/-- A number that is found again belongs to one subresource. -/
theorem distinct (d : ResourceDesc) : d.Distinct := by
  intro level layer level' layer' index hhas hhas' hindex hindex'
  obtain ⟨hlevel, hlayer⟩ := d.recovers _ _ _ hhas hindex
  obtain ⟨hlevel', hlayer'⟩ := d.recovers _ _ _ hhas' hindex'
  exact ⟨hlevel.symm.trans hlevel', hlayer.symm.trans hlayer'⟩

/-- A level and a layer for every number below the count. -/
theorem exists_has {n : Nat} (hn : n < d.subresourceTotal) :
    ∃ level layer, d.Has level layer ∧ d.subresourceNumber level layer = n := by
  have hpos : 0 < d.levelCount.toNat := Nat.pos_of_mul_pos_right (Nat.zero_lt_of_lt hn)
  have hlevel : n % d.levelCount.toNat < d.levelCount.toNat := Nat.mod_lt n hpos
  have hlayer : n / d.levelCount.toNat < d.layerCount.toNat := Nat.div_lt_of_lt_mul hn
  have hlevels : d.levelCount.toNat < UInt32.size := d.levelCount.toNat_lt
  have hlayers : d.layerCount.toNat < UInt32.size := d.layerCount.toNat_lt
  refine ⟨.ofNat (n % d.levelCount.toNat), .ofNat (n / d.levelCount.toNat), ?_, ?_⟩
  · constructor <;> rw [UInt32.toNat_ofNat_of_lt' (by omega)] <;> assumption
  · rw [subresourceNumber, UInt32.toNat_ofNat_of_lt' (by omega),
      UInt32.toNat_ofNat_of_lt' (by omega), Nat.div_add_mod']

/-- Every subresource has a number if a word can count them all.  If not, then the subresource
    that comes a word behind the first one has none. -/
theorem fits_iff : d.Fits ↔ d.subresourceTotal ≤ UInt32.size := by
  constructor
  · intro hfits
    apply Nat.not_lt.mp
    intro hmore
    obtain ⟨level, layer, hhas, hnumber⟩ := exists_has (d := d) (n := UInt32.size) hmore
    have hless := exists_subresourceIndex_iff.mp (hfits level layer hhas)
    omega
  · intro hcount level layer hhas
    exact exists_subresourceIndex_iff.mpr (Nat.lt_of_lt_of_le hhas.number_lt hcount)

end ResourceDesc

/-! ## Reading texels back -/

namespace Gpu

open Dialogue

/-- The place from which a command reads texels into a buffer. -/
def Command.reads : Command → List Place
  | .readTexture place _ _ _ => [place]
  | _ => []

/-- The places from which a call reads texels. -/
def Call.reads : Call → List Place
  | .submit _ commands => commands.flatMap Command.reads
  | _ => []

/-- The places from which texels were read. -/
def readPlaces (events : List (Dialogue.Event Call.Answer)) : List Place :=
  events.flatMap fun e => e.question.reads

/-- Places are read in order. -/
@[simp] theorem readPlaces_append (before after : List (Dialogue.Event Call.Answer)) :
    readPlaces (before ++ after) = readPlaces before ++ readPlaces after :=
  List.flatMap_append

theorem readPlaces_eq_nil {T : Type} {d : Program T} {events : List (Dialogue.Event Call.Answer)}
    {v : T} (hasks : d.Asks fun c => c.reads = []) (hrun : d.Runs events v) :
    readPlaces events = [] :=
  List.flatMap_eq_nil_iff.mpr (hasks hrun)

variable {events : List (Dialogue.Event Call.Answer)} {contents : Option Readback}

/-- To map a buffer reads no place. -/
theorem asks_readMapped (staging : Object .buffer) :
    (readMapped staging).Asks fun c => c.reads = [] := by
  refine .bind (.question rfl) fun _ => .bind (asks_poll rfl fun _ => rfl) fun finished => ?_
  split
  · exact .bind (.question rfl) fun _ => .bind (.question rfl) fun _ => .done _
  · exact .done _

/-- No texel is read where an error scope is opened or closed. -/
theorem readPlaces_of_inErrorScope {T : Type} {body : Program T} {result : Except String T}
    (hrun : (Program.inErrorScope body).Runs events result) :
    ∃ inner value, body.Runs inner value ∧ readPlaces events = readPlaces inner := by
  obtain ⟨inner, value, error?, hbody, -, rfl⟩ := runs_inErrorScope hrun
  have hclosed : readPlaces [⟨.popErrorScope, error?⟩] = [] := rfl
  refine ⟨inner, value, hbody, ?_⟩
  change readPlaces (inner ++ [⟨.popErrorScope, error?⟩]) = readPlaces inner
  rw [readPlaces_append, hclosed, List.append_nil]

/-- A staging buffer gets what its only command reads. -/
theorem readPlaces_of_readStaging {size : UInt64} {command : Object .buffer → Command}
    {data : Option ByteArray} (hrun : (readStaging size command).Runs events data) :
    ∃ staging, readPlaces events = (command staging).reads := by
  obtain ⟨scope, created, after, hscope, hafter, rfl⟩ := runs_bind_iff.mp hrun
  have hmapped : readPlaces after = [] := by
    refine readPlaces_eq_nil ?_ hafter
    cases created with
    | ok staging => exact asks_readMapped staging
    | error error => exact .bind (.question rfl) fun _ => .done _
  obtain ⟨inner, _, hinner, hscope⟩ := readPlaces_of_inErrorScope hscope
  obtain ⟨staging, _, rfl, hsubmit⟩ := runs_question_bind_iff.mp hinner
  obtain ⟨_, _, rfl, hdone⟩ := runs_question_bind_iff.mp hsubmit
  obtain ⟨rfl, -⟩ := runs_done_iff.mp hdone
  refine ⟨staging, ?_⟩
  rw [readPlaces_append, hmapped, List.append_nil, hscope]
  simp [readPlaces, Call.reads]

/-- To read a buffer reads no place of a texture. -/
theorem readPlaces_of_readBuffer {d : ResourceDesc} {b : Buffer}
    (hrun : (readBuffer d b).Runs events contents) : readPlaces events = [] := by
  obtain ⟨before, data, after, hstaging, hdone, rfl⟩ := runs_bind_iff.mp hrun
  obtain ⟨rfl, -⟩ := runs_done_iff.mp hdone
  rw [List.append_nil]
  exact (readPlaces_of_readStaging hstaging).choose_spec

/-- If a texture is read, then at the place of the subresource; it is if there are contents. -/
theorem readPlaces_of_readTexture {d : ResourceDesc} {t : Texture} {subresource : UInt32}
    {result : Except ArithmeticError (Option Readback)}
    (hrun : (readTexture d t subresource).Runs events result) :
    readPlaces events = [subresourcePlace d t.object subresource] ∨
      readPlaces events = [] ∧ ∀ contents, result ≠ .ok (some contents) := by
  unfold readTexture at hrun
  -- Without samples that can be copied, a layout of the level, a pitch and a size of all rows,
  -- nothing is submitted.
  split at hrun
  · obtain ⟨_, _, rfl, hdone⟩ := runs_question_bind_iff.mp hrun
    obtain ⟨rfl, rfl⟩ := runs_done_iff.mp hdone
    exact .inr ⟨rfl, nofun⟩
  split at hrun
  · obtain ⟨rfl, rfl⟩ := runs_done_iff.mp hrun
    exact .inr ⟨rfl, nofun⟩
  unfold readSubresource at hrun
  split at hrun
  · obtain ⟨rfl, rfl⟩ := runs_done_iff.mp hrun
    exact .inr ⟨rfl, nofun⟩
  split at hrun
  · obtain ⟨rfl, rfl⟩ := runs_done_iff.mp hrun
    exact .inr ⟨rfl, nofun⟩
  split at hrun
  · obtain ⟨rfl, rfl⟩ := runs_done_iff.mp hrun
    exact .inr ⟨rfl, nofun⟩
  obtain ⟨before, contents, after, hlevel, hdone, rfl⟩ := runs_bind_iff.mp hrun
  obtain ⟨rfl, -⟩ := runs_done_iff.mp hdone
  obtain ⟨before, data, after, hstaging, hdone, rfl⟩ := runs_bind_iff.mp hlevel
  obtain ⟨rfl, -⟩ := runs_done_iff.mp hdone
  obtain ⟨staging, hreads⟩ := readPlaces_of_readStaging hstaging
  rw [List.append_nil, List.append_nil]
  exact .inl hreads

end Gpu

/-! ## Probes of layers -/

section Probes

variable {d : ResourceDesc} {target : ResourceRef} {rect area : ProbeRect} {subresource : UInt32}

/-- A probe of a volume reads all slices of its only layer. -/
theorem probeArea_volume (hvolume : d.dimension = .texture3d)
    (harea : Step.probeArea d target rect = .ok (subresource, area)) :
    subresource = 0 ∧ area = rect := by
  rw [Step.probeArea, if_pos hvolume] at harea
  obtain ⟨rfl, rfl⟩ := Prod.mk.inj (Except.ok.inj harea)
  exact ⟨rfl, rfl⟩

/-- A probe of another resource reads the first level of a layer that it has. -/
theorem probeArea_layer (hvolume : d.dimension ≠ .texture3d)
    (harea : Step.probeArea d target rect = .ok (subresource, area)) :
    rect.layer < d.layerCount ∧ d.subresourceIndex 0 rect.layer = .ok subresource ∧
      area = { rect with layer := 0 } := by
  rw [Step.probeArea, if_neg hvolume] at harea
  split at harea
  · cases harea
  · rename_i hlayer
    split at harea
    · rename_i index hindex
      cases harea
      exact ⟨UInt32.not_le.mp hlayer, hindex, rfl⟩
    · cases harea

/-- What a probe compares the texels of a place with: the slice of a volume that it names, or else
    the layer that it names. -/
def IsProbed (d : ResourceDesc) (rect area : ProbeRect) (place : Gpu.Place) : Prop :=
  if d.dimension = .texture3d then area = rect ∧ place.level = 0 ∧ place.layer = 0
  else area = { rect with layer := 0 } ∧ place.level = 0 ∧ place.layer = rect.layer

/-- The place of the subresource that a probe asks for is the one that it names. -/
theorem isProbed_subresourcePlace (hlevels : d.levelCount ≠ 0)
    (harea : Step.probeArea d target rect = .ok (subresource, area))
    (texture : Gpu.Object .texture) :
    IsProbed d rect area (Gpu.subresourcePlace d texture subresource) := by
  have hlevel : (0 : UInt32).toNat < d.levelCount.toNat :=
    Nat.pos_of_ne_zero fun hzero => hlevels (UInt32.toNat_inj.mp hzero)
  unfold IsProbed
  split
  · rename_i hvolume
    obtain ⟨rfl, rfl⟩ := probeArea_volume hvolume harea
    exact ⟨rfl, UInt32.zero_mod, if_pos hvolume⟩
  · rename_i hvolume
    obtain ⟨-, hindex, rfl⟩ := probeArea_layer hvolume harea
    have hplace : (Gpu.subresourcePlace d texture subresource).layer =
        Gpu.subresourceLayer d subresource := if_neg hvolume
    refine ⟨rfl, ResourceDesc.subresourceLevel_index hlevel hindex, ?_⟩
    rw [hplace]
    exact ResourceDesc.subresourceLayer_index hlevel hindex

/-- A probe of a layer asks for the first level of that layer.  If that one has no number, then
    the run ends where it stands: nothing is asked for and nothing is reported. -/
theorem asks_or_breaksOff_of_readProbe {H : Type} {context : RunContext} {spot : Step.Spot}
    {value : ProbeValue} {steps : UInt32} {handle : H} {s s' : RunState H}
    {events : List (Event H)} {result : Except Fault Unit}
    (hvolume : d.dimension ≠ .texture3d) (hlayer : rect.layer < d.layerCount)
    (hlive : s.session.registry.get? target = some ⟨d, handle⟩)
    (hrun : (Step.readProbe context spot target rect value steps).Runs s events result s') :
    if d.subresourceNumber 0 rect.layer < UInt32.size then
      ∃ subresource answer rest,
        Step.probeArea d target rect = .ok (subresource, { rect with layer := 0 }) ∧
        events = s.asked (.readback ⟨d, handle⟩ subresource) answer :: rest
    else events = [] ∧ result = .error (.arithmetic .overflow) ∧ s' = s := by
  unfold Step.readProbe Step.lookup at hrun
  rw [bind_assoc, Step.runs_session_bind_iff, hlive, Step.runs_pure_bind_iff] at hrun
  have hlayer' : ¬ d.layerCount ≤ rect.layer := UInt32.not_le.mpr hlayer
  split
  · -- The number fits: the probe reads the first layer of the subresource.
    rename_i hfits
    obtain ⟨subresource, hindex⟩ := ResourceDesc.exists_subresourceIndex_iff.mpr hfits
    have harea : Step.probeArea d target rect = .ok (subresource, { rect with layer := 0 }) := by
      rw [Step.probeArea, if_neg hvolume, if_neg hlayer', hindex]
    rw [harea, Step.runs_ofExcept_ok_bind_iff] at hrun
    obtain ⟨answer, rest, rfl, -⟩ := Step.runs_ask_bind_iff.mp hrun
    exact ⟨subresource, answer, rest, harea, rfl⟩
  · -- The number does not fit: the multiplication ends the run before any question.
    rename_i hbeyond
    have harea : Step.probeArea d target rect = .error (.arithmetic .overflow) := by
      rw [Step.probeArea, if_neg hvolume, if_neg hlayer',
        ResourceDesc.subresourceIndex_eq_error_iff.mpr ⟨Nat.not_lt.mp hbeyond, rfl⟩]
    rw [harea] at hrun
    exact Step.runs_ofExcept_error_bind_iff.mp hrun

end Probes

/-- The subresources of an accepted block all have numbers if and only if a word can count them,
    as it can up to 2²⁷ layers.  The numbers that there are lie below the count, differ, and give
    levels and layers back.  Texels are read for a probe only where `IsProbed` says, and no
    contents come from a texture without.  A probe of a layer asks for the first level of that
    layer, or breaks off without a question if that one has no number. -/
theorem subresources_of_accepted {d : ResourceDesc} (haccepted : d.IsAccepted) :
    (d.Fits ↔ d.subresourceTotal ≤ UInt32.size) ∧
    (d.layerCount.toNat ≤ Nat.pow 2 27 → d.subresourceTotal ≤ UInt32.size) ∧
    d.Distinct ∧ d.Recovers ∧
    (∀ level layer index, d.Has level layer → d.subresourceIndex level layer = .ok index →
      index.toNat < d.subresourceTotal) ∧
    (∀ target rect subresource area handle events result,
      Step.probeArea d target rect = .ok (subresource, area) →
      (Gpu.readback ⟨d, handle⟩ subresource).Runs events result →
      (∀ place ∈ Gpu.readPlaces events, IsProbed d rect area place) ∧
        ((∃ t, handle = .texture t) → (∃ contents, result = .ok (some contents)) →
          Gpu.readPlaces events ≠ [])) ∧
    ∀ (H : Type) target rect context spot value steps handle (s s' : RunState H) events result,
      d.dimension ≠ .texture3d → rect.layer < d.layerCount →
      s.session.registry.get? target = some ⟨d, handle⟩ →
      (Step.readProbe context spot target rect value steps).Runs s events result s' →
      if d.subresourceNumber 0 rect.layer < UInt32.size then
        ∃ subresource answer rest,
          Step.probeArea d target rect = .ok (subresource, { rect with layer := 0 }) ∧
          events = s.asked (.readback ⟨d, handle⟩ subresource) answer :: rest
      else events = [] ∧ result = .error (.arithmetic .overflow) ∧ s' = s := by
  refine ⟨ResourceDesc.fits_iff, Nat.mul_le_mul haccepted.levelCount_le, d.distinct, d.recovers,
    fun _ _ _ hhas hindex => hhas.index_lt hindex, ?_, ?_⟩
  · intro target rect subresource area handle events result harea hrun
    cases handle with
    | buffer b =>
      -- A buffer has no subresources, and reading it names none.
      obtain ⟨before, contents, after, hbuffer, hdone, rfl⟩ := Dialogue.runs_bind_iff.mp hrun
      obtain ⟨rfl, -⟩ := Dialogue.runs_done_iff.mp hdone
      rw [List.append_nil, Gpu.readPlaces_of_readBuffer hbuffer]
      exact ⟨nofun, fun ⟨_, htexture⟩ => nomatch htexture⟩
    | texture t =>
      have hplace := isProbed_subresourcePlace haccepted.isCounted.levels harea t.object
      -- A texture is read at one place, or the staging buffer is refused before that.
      obtain hread | ⟨hread, hnone⟩ := Gpu.readPlaces_of_readTexture hrun
      · rw [hread]
        exact ⟨List.forall_mem_singleton.mpr hplace, fun _ _ => List.cons_ne_nil _ _⟩
      · rw [hread]
        exact ⟨nofun, fun _ ⟨contents, hsome⟩ => absurd hsome (hnone contents)⟩
  · intro H target rect context spot value steps handle s s' events result hvolume hlayer hlive hrun
    exact asks_or_breaksOff_of_readProbe hvolume hlayer hlive hrun

/-- An array of textures of two levels, with as many layers as a word counts. -/
def manyLayers : ResourceDesc :=
  { ResourceDesc.fresh .renderTarget 0 with
    dimension := .texture2dArray, format := .r32Float, texelSize := 4, width := 2, height := 2
    layerCount := 4294967295, levelCount := 2 }

/-- Its lines are accepted, and the layer in the middle has no number, so that a probe of it
    breaks off. -/
theorem manyLayers_overflow : manyLayers.IsAccepted ∧ ¬ manyLayers.Fits ∧
    manyLayers.subresourceIndex 0 2147483648 = .error .overflow ∧
    ∀ (s s' : RunState Gpu.Handle) context spot value steps handle events result,
      s.session.registry.get? ⟨.renderTarget, 0⟩ = some ⟨manyLayers, handle⟩ →
      (Step.readProbe context spot ⟨.renderTarget, 0⟩ ⟨0, 0, 1, 1, 2147483648⟩ value steps).Runs
        s events result s' →
      events = [] ∧ result = .error (.arithmetic .overflow) ∧ s' = s := by
  have haccepted : manyLayers.IsAccepted :=
    ⟨.renderTarget, 0, ["format r32-float".toList, "size (2darray, 2, 2, 4294967295)".toList,
      "levels 2".toList], ⟨manyLayers, [], true⟩, rfl, rfl⟩
  have hmore : ¬ manyLayers.subresourceTotal ≤ UInt32.size := by decide
  have hbeyond : ¬ manyLayers.subresourceNumber 0 2147483648 < UInt32.size := by decide
  obtain ⟨hfits, -, -, -, -, -, hlayers⟩ := subresources_of_accepted haccepted
  refine ⟨haccepted, fun h => hmore (hfits.mp h), by decide, ?_⟩
  intro s s' context spot value steps handle events result hlive hrun
  have hprobed := hlayers _ _ _ context spot value steps handle s s' events result (by decide)
    (by decide) hlive hrun
  rwa [if_neg hbeyond] at hprobed

end ShaderConformance
