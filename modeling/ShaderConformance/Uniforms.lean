import ShaderConformance.Command.Basic

/-!
# The uniform buffer

A write grows the buffer to whole groups of four 32-bit slots that cover it; bytes
that no write has set hold a fill value.
-/

namespace ShaderConformance.Uniforms

/-- The value of bytes that no write has set. -/
def fill : UInt8 := 0x7f

/-- The 32-bit slots that cover a number of bytes. -/
def slotsOf (bytes : Nat) : Nat := (bytes + 3) / 4

/-- The slots that a buffer of some size needs for a write up to a byte: those that it has
    and those of the write, in whole groups of four. -/
def slotsFor (size stop : Nat) : Nat := roundUp (max (size / 4) (slotsOf stop)) 4

/-- Puts bytes over a part of a buffer that is long enough. -/
def overlay (buffer : List UInt8) (start : Nat) (data : List UInt8) : List UInt8 :=
  buffer.take start ++ data ++ buffer.drop (start + data.length)

/-- A buffer with fill bytes at its end up to a size. -/
def padTo (buffer : List UInt8) (size : Nat) : List UInt8 :=
  buffer ++ List.replicate (size - buffer.length) fill

/-- Grows a buffer to a number of slots, unless it has as many bytes. -/
def growTo (buffer : List UInt8) (slots : Nat) : List UInt8 :=
  if buffer.length < slots * 4 then padTo buffer (slots * 4) else buffer

/-- Writes bytes at an offset in 32-bit slots. -/
def write (buffer : List UInt8) (offset : UInt32) (data : List UInt8) : List UInt8 :=
  let start := offset.toNat * 4
  overlay (growTo buffer (slotsFor buffer.length (start + data.length))) start data

end ShaderConformance.Uniforms
