import ShaderConformance.Proofs.Programs

/-!
# What is bound for a register

The compiler shifts the registers of each kind to their bindings, and the backend takes every
binding that a shader uses for a register again.  Registers have any number, but the ranges of
bindings of textures and unordered access views have sixteen, and end where the next one
begins.  A texture register behind its range is taken for an unordered access view.

## Main definitions

- `Register.takenFor?`: the register that the binding of a register is taken for
- `Names`: a register names an object that is bound

## Main statements

- `Register.ofBinding?_binding`: what the binding of a register is taken for
- `names_of_resolve`: what is bound for a register is what it names, unless it is a texture
  behind the range
-/

namespace ShaderConformance.Gpu

open Dialogue (Event)

/-! ## Registers -/

namespace Register

/-- The ways in which registers of a kind are used: samplers are used as samplers only, and
    nothing else is. -/
def IsUsedAs : Register → BindingKind → Prop
  | uniforms, kind => kind = .uniformBuffer
  | texture _, kind | uav _, kind => ∀ comparison, kind ≠ .sampler comparison
  | sampler _ comparison, kind => kind = .sampler comparison

/-- The binding of a register as a sum that may be too large for a word. -/
def bindingNumber : Register → Nat
  | uniforms => uniformBinding.toNat
  | texture slot => textureBase.toNat + slot.toNat
  | uav slot => uavBase.toNat + slot.toNat
  | sampler slot _ => samplerBase.toNat + slot.toNat

/-- Whether the range of bindings of its kind has a place for a register. -/
def InRange : Register → Prop
  | texture slot | uav slot => slot < 16
  | uniforms | sampler _ _ => True

/-- The register that the binding of a register is taken for. -/
def takenFor? : Register → Option Register
  | texture slot =>
    if slot < 16 then some (texture slot)
    else if slot < 32 then some (uav (slot - 16))
    else none
  | uav slot => if slot < 16 then some (uav slot) else none
  | uniforms => some uniforms
  | sampler slot comparison => some (sampler slot comparison)

/-! ## Ranges -/

section Ranges

variable {index : UInt32} {kind : BindingKind}

/-- A binding in the ranges of registers is not that of the uniforms. -/
theorem not_uniforms (hfirst : 16 ≤ index.toNat) :
    ¬(index = uniformBinding ∧ kind = .uniformBuffer) := by
  rintro ⟨rfl, -⟩
  exact absurd hfirst (by decide)

/-- Bindings of the second range are textures. -/
theorem ofBinding?_textures (hfirst : 16 ≤ index.toNat) (hlast : index.toNat < 32) :
    ofBinding? ⟨index, kind⟩ = some (texture (index - textureBase)) := by
  have hrange : textureBase ≤ index ∧ index < uavBase :=
    ⟨UInt32.le_iff_toNat_le.mpr hfirst, UInt32.lt_iff_toNat_lt.mpr hlast⟩
  unfold ofBinding?
  dsimp only
  rw [if_neg (not_uniforms hfirst), if_pos hrange]

/-- Bindings of the third range are unordered access views. -/
theorem ofBinding?_uavs (hfirst : 32 ≤ index.toNat) (hlast : index.toNat < 48) :
    ofBinding? ⟨index, kind⟩ = some (uav (index - uavBase)) := by
  have htexture : ¬(textureBase ≤ index ∧ index < uavBase) := by
    rintro ⟨-, hlt⟩
    exact absurd (UInt32.lt_iff_toNat_lt.mp hlt) (Nat.not_lt.mpr hfirst)
  have hrange : uavBase ≤ index ∧ index < samplerBase :=
    ⟨UInt32.le_iff_toNat_le.mpr hfirst, UInt32.lt_iff_toNat_lt.mpr hlast⟩
  unfold ofBinding?
  dsimp only
  rw [if_neg (not_uniforms (by omega)), if_neg htexture, if_pos hrange]

/-- Behind the other ranges there are samplers only. -/
theorem ofBinding?_behind (hfirst : 48 ≤ index.toNat) :
    ofBinding? ⟨index, kind⟩ =
      match kind with
      | .sampler comparison => some (sampler (index - samplerBase) comparison)
      | _ => none := by
  have htexture : ¬(textureBase ≤ index ∧ index < uavBase) := by
    rintro ⟨-, hlt⟩
    have hlt : index.toNat < 32 := UInt32.lt_iff_toNat_lt.mp hlt
    omega
  have huav : ¬(uavBase ≤ index ∧ index < samplerBase) := by
    rintro ⟨-, hlt⟩
    exact absurd (UInt32.lt_iff_toNat_lt.mp hlt) (Nat.not_lt.mpr hfirst)
  have hrange : samplerBase ≤ index := UInt32.le_iff_toNat_le.mpr hfirst
  unfold ofBinding?
  dsimp only
  rw [if_neg (not_uniforms (by omega)), if_neg htexture, if_neg huav]
  cases kind with
  | sampler comparison => exact if_pos hrange
  | _ => rfl

/-- Bindings behind all ranges are nothing. -/
theorem ofBinding?_outside (hkind : ∀ comparison, kind ≠ .sampler comparison)
    (hfirst : 48 ≤ index.toNat) : ofBinding? ⟨index, kind⟩ = none := by
  rw [ofBinding?_behind hfirst]
  cases kind with
  | sampler comparison => exact absurd rfl (hkind comparison)
  | _ => rfl

end Ranges

variable {r : Register} {kind : BindingKind}

/-- A binding that fits is the sum of its base and its slot. -/
theorem toNat_add {base slot : UInt32} (hsum : base.toNat + slot.toNat < UInt32.size) :
    (base + slot).toNat = base.toNat + slot.toNat := by
  rw [UInt32.toNat_add, Nat.mod_eq_of_lt hsum]

/-- Without its base a binding is its slot. -/
theorem add_sub_base (base slot : UInt32) : base + slot - base = slot := by
  rw [UInt32.add_comm, UInt32.add_sub_cancel]

/-- A texture behind its range is a slot of the next one. -/
theorem add_sub_next {slot : UInt32} (hindex : (textureBase + slot).toNat = 16 + slot.toNat)
    (hslot : 16 ≤ slot.toNat) : textureBase + slot - uavBase = slot - 16 := by
  have hleft : (textureBase + slot - uavBase).toNat = (textureBase + slot).toNat - 32 := by
    apply UInt32.toNat_sub_of_le
    rw [UInt32.le_iff_toNat_le, hindex]
    exact Nat.add_le_add_left hslot 16
  have hright : (slot - 16).toNat = slot.toNat - 16 :=
    UInt32.toNat_sub_of_le _ _ (UInt32.le_iff_toNat_le.mpr hslot)
  apply UInt32.toNat_inj.mp
  rw [hleft, hright, hindex]
  omega

/-- What the binding of a register is taken for. -/
theorem ofBinding?_binding (hkind : r.IsUsedAs kind) (hsum : r.bindingNumber < UInt32.size) :
    ofBinding? ⟨r.binding, kind⟩ = r.takenFor? := by
  cases r with
  | uniforms =>
    have hkind : kind = .uniformBuffer := hkind
    rw [hkind]
    rfl
  | texture slot =>
    have hindex : (textureBase + slot).toNat = 16 + slot.toNat := toNat_add hsum
    rw [binding, takenFor?]
    by_cases hown : slot < 16
    · have hslot : slot.toNat < 16 := UInt32.lt_iff_toNat_lt.mp hown
      rw [if_pos hown, ofBinding?_textures (by omega) (by omega), add_sub_base]
    · have hslot : 16 ≤ slot.toNat := UInt32.le_iff_toNat_le.mp (UInt32.not_lt.mp hown)
      by_cases hnext : slot < 32
      · -- The next range begins sixteen bindings later.
        have hlast : slot.toNat < 32 := UInt32.lt_iff_toNat_lt.mp hnext
        rw [if_neg hown, if_pos hnext, ofBinding?_uavs (by omega) (by omega),
          add_sub_next hindex hslot]
      · have hlast : 32 ≤ slot.toNat := UInt32.le_iff_toNat_le.mp (UInt32.not_lt.mp hnext)
        rw [if_neg hown, if_neg hnext, ofBinding?_outside hkind (by omega)]
  | uav slot =>
    have hindex : (uavBase + slot).toNat = 32 + slot.toNat := toNat_add hsum
    rw [binding, takenFor?]
    by_cases hown : slot < 16
    · have hslot : slot.toNat < 16 := UInt32.lt_iff_toNat_lt.mp hown
      rw [if_pos hown, ofBinding?_uavs (by omega) (by omega), add_sub_base]
    · have hslot : 16 ≤ slot.toNat := UInt32.le_iff_toNat_le.mp (UInt32.not_lt.mp hown)
      rw [if_neg hown, ofBinding?_outside hkind (by omega)]
  | sampler slot comparison =>
    have hindex : (samplerBase + slot).toNat = 48 + slot.toNat := toNat_add hsum
    have hkind : kind = .sampler comparison := hkind
    rw [binding, takenFor?, ofBinding?_behind (by omega), hkind]
    dsimp only
    rw [add_sub_base]

example : ofBinding? ⟨(texture 16).binding, .texture false⟩ = some (uav 0) := by decide

end Register

/-! ## Objects -/

/-- A way to bind a resource: its buffer itself, or a view of its whole texture. -/
inductive StandsFor (resource : Resource Handle) : List (Event Call.Answer) → Bound → Prop
  | buffer {b : Buffer} (h : resource.handle = .buffer b) :
      StandsFor resource [] (.buffer b.object)
  | view {t : Texture} {aspect : Aspect} {view : Object .view}
      (h : resource.handle = .texture t) :
      StandsFor resource [⟨.createView t.object (boundView resource.desc aspect), view⟩]
        (.view view)

/-- A register names an object that is bound: the uniforms, the live resource of its type and
    slot, or a sampler that was made for the one of its slot. -/
inductive Names (state : RenderState Handle) (uniforms : Object .buffer) :
    Register → List (Event Call.Answer) → Bound → Prop
  | uniforms : Names state uniforms .uniforms [] (.buffer uniforms)
  | texture {slot : UInt32} {resource : Resource Handle} {events : List (Event Call.Answer)}
      {object : Bound} (hlive : state.registry.get? ⟨.texture, slot⟩ = some resource)
      (h : StandsFor resource events object) : Names state uniforms (.texture slot) events object
  | uav {slot : UInt32} {resource : Resource Handle} {events : List (Event Call.Answer)}
      {object : Bound} (hlive : state.registry.get? ⟨.uav, slot⟩ = some resource)
      (h : StandsFor resource events object) : Names state uniforms (.uav slot) events object
  | sampler {slot : UInt32} {comparison : Bool} {sampler : SamplerDesc}
      {desc : SamplerDescription} {object : Object .sampler}
      (hlive : state.registry.samplers.find? (·.slot = slot) = some sampler)
      (hdesc : sampler.device? = some desc) :
      Names state uniforms (.sampler slot comparison)
        [⟨.createSampler samplerLabel desc, object⟩] (.sampler object)

section Bindings

variable {device : Device} {state : RenderState Handle} {uniforms : Object .buffer}
  {kind : BindingKind} {events : List (Event Call.Answer)} {found : Resolved}

/-- A sampled texture is bound by a view of it. -/
theorem standsFor_of_bindTexture {resource : Resource Handle} {t : Texture} {multisampled : Bool}
    (htexture : resource.handle = .texture t)
    (h : (bindTexture device resource.desc t multisampled).run.Runs events (.ok found)) :
    StandsFor resource events found.object := by
  obtain ⟨sampleType, -, hview⟩ := runs_require_bind h
  obtain ⟨view, rest, rfl, hpure⟩ := runs_call_bind hview
  obtain ⟨rfl, rfl⟩ := runs_pure_ok hpure
  exact .view htexture

theorem standsFor_of_bindStorage {resource : Resource Handle} {t : Texture}
    (htexture : resource.handle = .texture t)
    (h : (bindStorage device resource.desc t).run.Runs events (.ok found)) :
    StandsFor resource events found.object := by
  obtain ⟨view, rest, rfl, hpure⟩ := runs_call_bind h
  obtain ⟨rfl, rfl⟩ := runs_pure_ok hpure
  exact .view htexture

/-- What is bound for a name is the live resource of that name. -/
theorem standsFor_of_bindResource {ref : ResourceRef}
    (h : (bindResource device state ref kind).run.Runs events (.ok found)) :
    ∃ resource, state.registry.get? ref = some resource ∧
      StandsFor resource events found.object := by
  obtain ⟨resource, hlive, hbind⟩ := runs_require_bind h
  refine ⟨resource, hlive, ?_⟩
  -- A buffer is bound for a storage buffer alone, a texture for either kind of texture.
  cases hhandle : resource.handle with
  | buffer b =>
    rw [hhandle] at hbind
    cases kind with
    | storageBuffer readOnly =>
      obtain ⟨rfl, rfl⟩ := runs_pure_ok hbind
      exact .buffer hhandle
    | _ => exact absurd hbind not_runs_refuse
  | texture t =>
    rw [hhandle] at hbind
    cases kind with
    | texture multisampled => exact standsFor_of_bindTexture hhandle hbind
    | storageTexture => exact standsFor_of_bindStorage hhandle hbind
    | _ => exact absurd hbind not_runs_refuse

/-- A sampler is bound as its slot describes it. -/
theorem names_of_bindSampler {slot : UInt32} {comparison : Bool}
    (h : (bindSampler state slot comparison).run.Runs events (.ok found)) :
    Names state uniforms (.sampler slot comparison) events found.object := by
  obtain ⟨sampler, hlive, h⟩ := runs_require_bind h
  obtain ⟨desc, hdesc, h⟩ := runs_require_bind h
  obtain ⟨object, rest, rfl, hpure⟩ := runs_call_bind h
  obtain ⟨rfl, rfl⟩ := runs_pure_ok hpure
  exact .sampler hlive hdesc

/-- What is bound for a binding is named by the register that the binding is taken for. -/
theorem names_of_ofBinding? {b : ShaderBinding}
    (h : (resolve device state uniforms b).run.Runs events (.ok found)) :
    ∃ r, Register.ofBinding? b = some r ∧ Names state uniforms r events found.object := by
  unfold resolve at h
  split at h
  · exact absurd h not_runs_refuse
  · rename_i hregister
    obtain ⟨rfl, rfl⟩ := runs_pure_ok h
    exact ⟨_, hregister, .uniforms⟩
  · rename_i slot hregister
    obtain ⟨resource, hlive, hstands⟩ := standsFor_of_bindResource h
    exact ⟨_, hregister, .texture hlive hstands⟩
  · rename_i slot hregister
    obtain ⟨resource, hlive, hstands⟩ := standsFor_of_bindResource h
    exact ⟨_, hregister, .uav hlive hstands⟩
  · rename_i slot comparison hregister
    exact ⟨_, hregister, names_of_bindSampler h⟩

/-- What is bound for a register is what it names, unless it is a texture behind the range of
    textures; the next sixteen of these are taken for unordered access views, and nothing is
    bound for other registers behind their range. -/
theorem names_of_resolve {r : Register} (hkind : r.IsUsedAs kind)
    (hsum : r.bindingNumber < UInt32.size)
    (hrun : (resolve device state uniforms ⟨r.binding, kind⟩).run.Runs events (.ok found)) :
    (r.InRange ∧ Names state uniforms r events found.object) ∨
      ∃ slot, r = .texture slot ∧ 16 ≤ slot ∧ slot < 32 ∧
        Names state uniforms (.uav (slot - 16)) events found.object := by
  -- The object is that of the register that the binding is taken for.
  obtain ⟨r', hregister, hnames⟩ := names_of_ofBinding? hrun
  rw [Register.ofBinding?_binding hkind hsum] at hregister
  cases r with
  | uniforms =>
    cases hregister
    exact Or.inl ⟨trivial, hnames⟩
  | texture slot =>
    rw [Register.takenFor?] at hregister
    split at hregister
    · rename_i hown
      cases hregister
      exact Or.inl ⟨hown, hnames⟩
    · rename_i hown
      split at hregister
      · rename_i hnext
        cases hregister
        exact Or.inr ⟨slot, rfl, UInt32.not_lt.mp hown, hnext, hnames⟩
      · cases hregister
  | uav slot =>
    rw [Register.takenFor?] at hregister
    split at hregister
    · rename_i hown
      cases hregister
      exact Or.inl ⟨hown, hnames⟩
    · cases hregister
  | sampler slot comparison =>
    cases hregister
    exact Or.inl ⟨trivial, hnames⟩

/-- A texture register behind its range is bound as an unordered access view is. -/
theorem resolve_texture_behind {slot : UInt32} (hkind : (Register.texture slot).IsUsedAs kind)
    (hfirst : 16 ≤ slot) (hlast : slot < 32) :
    resolve device state uniforms ⟨(Register.texture slot).binding, kind⟩ =
      bindResource device state ⟨.uav, slot - 16⟩ kind := by
  have hsum : (Register.texture slot).bindingNumber < UInt32.size := by
    have hslot : slot.toNat < 32 := UInt32.lt_iff_toNat_lt.mp hlast
    have hsize : 48 ≤ UInt32.size := by decide
    simp only [Register.bindingNumber, show textureBase.toNat = 16 from rfl]
    omega
  have htaken : (Register.texture slot).takenFor? = some (.uav (slot - 16)) := by
    rw [Register.takenFor?, if_neg (UInt32.not_lt.mpr hfirst), if_pos hlast]
  rw [resolve, Register.ofBinding?_binding hkind hsum, htaken]

end Bindings

/-- A texture behind the range of textures, and the unordered access view that has its
    binding. -/
def behindResources : List (Resource Handle) :=
  [⟨.fresh .texture 16, .buffer ⟨⟨0⟩, 16⟩⟩, ⟨.fresh .uav 0, .buffer ⟨⟨1⟩, 16⟩⟩]

def behindState : RenderState Handle where
  shader _ := none
  registry := ⟨behindResources, [], []⟩
  inputElements := []
  uniforms := []
  viewports := .replicate _ none
  fixed := .fresh

/-- The unordered access view is bound in place of the texture. -/
theorem names_of_resolve_behind :
    behindState.registry.get? ⟨.texture, 16⟩ = behindResources[0]? ∧
    (resolve plainDevice behindState ⟨2⟩
      ⟨(Register.texture 16).binding, .storageBuffer true⟩).run.Runs []
        (.ok ⟨.storage true, .buffer ⟨1⟩⟩) ∧
    Names behindState ⟨2⟩ (.uav 0) [] (.buffer ⟨1⟩) := by
  have hkind : (Register.texture 16).IsUsedAs (.storageBuffer true) := nofun
  have hrun : (resolve plainDevice behindState ⟨2⟩
      ⟨(Register.texture 16).binding, .storageBuffer true⟩).run.Runs []
        (.ok ⟨.storage true, .buffer ⟨1⟩⟩) := by
    rw [resolve_texture_behind hkind (by decide) (by decide)]
    exact .done _
  refine ⟨rfl, hrun, ?_⟩
  obtain ⟨hrange, -⟩ | ⟨slot, hslot, -, -, hnames⟩ := names_of_resolve hkind (by decide) hrun
  · have hrange : (16 : UInt32) < 16 := hrange
    exact absurd hrange (by decide)
  · cases hslot
    exact hnames

end ShaderConformance.Gpu
