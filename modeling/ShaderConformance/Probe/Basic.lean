import ShaderConformance.Probe.Value

/-!
# Probes

A probe compares every texel of a rectangle with an expected value, row by row,
and names the first texel that does not match.  If the place of that one is beyond the
address space, then the probe breaks off.
-/

namespace ShaderConformance

/-- The texels of a layer from (`left`, `top`) up to, not including, (`right`,
    `bottom`). -/
structure ProbeRect where
  left : UInt32
  top : UInt32
  right : UInt32
  bottom : UInt32
  /-- An array layer or depth slice. -/
  layer : UInt32
deriving DecidableEq, Repr, Inhabited

/-- A single texel, unless one of its coordinates is the last 32-bit word. -/
def ProbeRect.point? (x y layer : UInt32) : Option ProbeRect :=
  if x.toNat + 1 < UInt32.size ∧ y.toNat + 1 < UInt32.size then
    some { left := x, top := y, right := x + 1, bottom := y + 1, layer }
  else none

/-- The first texel that did not match. -/
structure ProbeMismatch where
  x : Nat
  y : Nat
  got : ProbeValue
  expected : ProbeValue
deriving DecidableEq, Repr

namespace ProbeMismatch

def message (m : ProbeMismatch) : String :=
  s!"Got {m.got}, expected {m.expected} at ({m.x}, {m.y})."

end ProbeMismatch

/-- The first result of a search over `count` numbers from `first` on. -/
def firstFrom? {T : Type} (search : Nat → Option T) : (first count : Nat) → Option T
  | _, 0 => none
  | first, count + 1 =>
    match search first with
    | some found => some found
    | none => firstFrom? search (first + 1) count

namespace Readback

/-- The texel at some coordinates, decoded like an expected value. -/
def decoded? (r : Readback) (expected : ProbeValue) (x y z : Nat) : Option ProbeValue :=
  (r.texel? x y z).bind (expected.decodeLike? r.format)

/-- Compares one texel with an expected value. -/
def probeTexel (r : Readback) (layer : Nat) (expected : ProbeValue) (steps : UInt32)
    (x y : Nat) : Option ProbeMismatch :=
  match r.decoded? expected x y layer with
  | some got =>
    if got.matchesWithin steps expected then none else some { x, y, got, expected }
  | none => some { x, y, got := .u32 [], expected }

/-- Compares the texels of a rectangle with an expected value; the first mismatch in
    the order of rows, if there is one.  A texel that is not there does not match. -/
def probe (r : Readback) (rect : ProbeRect) (expected : ProbeValue) (steps : UInt32) :
    Option ProbeMismatch :=
  let row y := firstFrom? (fun x => r.probeTexel rect.layer.toNat expected steps x y)
    rect.left.toNat (rect.right.toNat - rect.left.toNat)
  firstFrom? row rect.top.toNat (rect.bottom.toNat - rect.top.toNat)

/-- What comes of a probe: it breaks off at a texel whose place is beyond the address
    space, if every texel before that one matches. -/
def verdict (r : Readback) (rect : ProbeRect) (expected : ProbeValue) (steps : UInt32) :
    Except ArithmeticError (Option ProbeMismatch) :=
  match r.probe rect expected steps with
  | none => .ok none
  | some m => (r.texel m.x m.y rect.layer.toNat).map fun _ => some m

end Readback

end ShaderConformance
