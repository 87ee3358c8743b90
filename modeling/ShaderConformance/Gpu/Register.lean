import ShaderConformance.Resource.Kind
import ShaderConformance.Shader.Basic

/-!
# Registers and bindings

Shaders name what they use by registers: one for uniforms, and numbered ones for
textures, unordered access views and samplers.  Devices number the bindings of a group
instead, so each kind of register has a range of bindings.

`Register.binding` gives the binding of a register, and `Register.ofBinding?` the
register of a binding that a shader uses in some way; on the registers of the ranges
the second undoes the first.
-/

namespace ShaderConformance.Gpu

/-- The binding of the uniform buffer. -/
def uniformBinding : UInt32 := 0

/-- The binding of texture register 0. -/
def textureBase : UInt32 := 16

/-- The binding of unordered access register 0. -/
def uavBase : UInt32 := 32

/-- The binding of sampler register 0. -/
def samplerBase : UInt32 := 48

/-- A register of a shader. -/
inductive Register where
  | uniforms
  | texture (slot : UInt32)
  | uav (slot : UInt32)
  | sampler (slot : UInt32) (comparison : Bool)
deriving DecidableEq, Repr

namespace Register

/-- The binding of a register, modulo the word size. -/
def binding : Register → UInt32
  | uniforms => uniformBinding
  | texture slot => textureBase + slot
  | uav slot => uavBase + slot
  | sampler slot _ => samplerBase + slot

/-- The register of a binding that is used in some way. -/
def ofBinding? (b : ShaderBinding) : Option Register :=
  let index := b.binding
  if index = uniformBinding ∧ b.kind = .uniformBuffer then some uniforms
  else if textureBase ≤ index ∧ index < uavBase then some (texture (index - textureBase))
  else if uavBase ≤ index ∧ index < samplerBase then some (uav (index - uavBase))
  else
    match b.kind with
    | .sampler comparison =>
      if samplerBase ≤ index then some (sampler (index - samplerBase) comparison) else none
    | _ => none

end Register

end ShaderConformance.Gpu
