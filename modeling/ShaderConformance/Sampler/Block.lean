import ShaderConformance.Sampler.Basic
import ShaderConformance.Text.Keyword

/-!
# Sampler blocks

The lines of a sampler block set the address modes, the filter modes, or the
comparison function, which makes the sampler compare.  Address modes that stand
before a refused one are kept.
-/

namespace ShaderConformance.SamplerDesc

open Text

/-- Reads an address mode. -/
def addressMode (line : Text) : Except Fault (AddressMode × Text) :=
  match tableKeyword? line AddressMode.table with
  | some found => .ok found
  | none => .error (.malformed "address mode" (trim line))

/-- Reads the address modes of the three coordinates into a sampler. -/
def takeAddress (s : SamplerDesc) (line : Text) : SamplerDesc × Option Fault :=
  match addressMode line with
  | .error fault => (s, some fault)
  | .ok (u, line) =>
    let s := { s with address := { s.address with u } }
    match addressMode line with
    | .error fault => (s, some fault)
    | .ok (v, line) =>
      let s := { s with address := { s.address with v } }
      match addressMode line with
      | .error fault => (s, some fault)
      | .ok (w, line) =>
        let s := { s with address := { s.address with w } }
        match endOfLine line with
        | .error fault => (s, some fault)
        | .ok () => (s, none)

/-- Reads a filter mode. -/
def filterMode (line : Text) : Except Fault (FilterMode × Text) :=
  match tableKeyword? line FilterMode.table with
  | some found => .ok found
  | none => .error (.malformed "filter mode" (trim line))

/-- Reads the filter modes of minification, magnification and mip selection. -/
def filterLine (line : Text) : Except Fault (FilterMode × FilterMode × FilterMode) := do
  let (min, line) ← filterMode line
  let (mag, line) ← filterMode line
  let (mip, line) ← filterMode line
  endOfLine line
  return (min, mag, mip)

/-- Reads a comparison function. -/
def comparisonLine (line : Text) : Except Fault ComparisonFunc :=
  match tableKeyword? line ComparisonFunc.table with
  | none => .error (.unknown "comparison function" (trim line))
  | some (func, rest) => (endOfLine rest).map fun _ => func

/-- Takes a line into a sampler, with the fault of the line if it is refused. -/
def takeLine (s : SamplerDesc) (line : Text) : SamplerDesc × Option Fault :=
  match keyword? line "address" with
  | some rest => s.takeAddress rest
  | none =>
    match keyword? line "filter" with
    | some rest =>
      match filterLine rest with
      | .error fault => (s, some fault)
      | .ok (min, mag, mip) =>
        ({ s with filter := { min, mag, mip, comparison := s.func.isSome } }, none)
    | none =>
      match keyword? line "comparison" with
      | some rest =>
        match comparisonLine rest with
        | .error fault => (s, some fault)
        | .ok func => ({ s with func, filter := { s.filter with comparison := true } }, none)
      | none => (s, some (.unknown "sampler directive" (trim line)))

end ShaderConformance.SamplerDesc
