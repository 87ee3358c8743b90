import ShaderConformance.Pipeline.State
import ShaderConformance.Resource.Description

/-!
# Bytes of resources

The resources that a backend in memory keeps, each with its description and bytes
under a handle.
-/

namespace ShaderConformance

/-- A resource that is kept in memory. -/
structure Storage where
  handle : Nat
  desc : ResourceDesc
  data : ByteArray

/-- The resources of a backend, in the order of their creation. -/
abbrev Storages := List Storage

namespace Storages

/-- The storage under a handle. -/
def at? (s : Storages) (handle : Nat) : Option Storage := s.find? (·.handle = handle)

/-- Changes the bytes under a handle. -/
def modify (s : Storages) (handle : Nat) (f : ByteArray → ByteArray) : Storages :=
  s.map fun storage =>
    if storage.handle = handle then { storage with data := f storage.data } else storage

/-- Fills what is under a handle with copies of some bytes. -/
def fill (s : Storages) (handle : Nat) (pattern : List UInt8) : Storages :=
  s.modify handle fun data => repeated pattern data.size

/-- Removes what is under a handle. -/
def remove (s : Storages) (handle : Nat) : Storages := s.filter (·.handle ≠ handle)

/-- Copies all bytes from one handle to another that has as many; `none` if there are
    no such handles. -/
def copy? (s : Storages) (source target : Nat) : Option Storages :=
  match s.at? source, s.at? target with
  | some a, some b =>
    if a.data.size = b.data.size then some (s.modify target fun _ => a.data) else none
  | _, _ => none

end Storages

/-- The bytes that a clear repeats, if a format allows it. -/
def ClearValue.pattern? (value : ClearValue) (format : Format) : Option (List UInt8) :=
  match value, format with
  | .colour _, .r32G32B32A32Float | .depth _, .d32Float => some value.bytes
  | _, _ => none

end ShaderConformance
