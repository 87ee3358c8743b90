import ShaderConformance.Floating.Shortest

/-!
# Single and double precision numbers

The two widths that tests use, as types over machine words.  Two numbers are
the same value of these types exactly when their patterns are, so zeros of
either sign and NaNs of any payload are kept apart; `compare` and the
representable steps between two numbers are the comparisons of the numbers
themselves.
-/

namespace ShaderConformance

open Floating

/-- A number in single precision. -/
structure Single where
  bits : UInt32
deriving DecidableEq, Repr, Inhabited

/-- A number in double precision. -/
structure Double where
  bits : UInt64
deriving DecidableEq, Repr, Inhabited

namespace Single

/-- The number with the given pattern. -/
def ofPattern (bits : Nat) : Single := ⟨UInt32.ofNat bits⟩

def isNaN (x : Single) : Bool := Interchange.single.isNaN x.bits.toNat

/-- The place on the line of representable numbers. -/
def orderKey (x : Single) : Int := Interchange.single.orderKey x.bits.toNat

/-- Positive zero. -/
def zero : Single := ⟨0⟩

def one : Single := ⟨0x3f800000⟩

/-- The largest finite number. -/
def largest : Single := ⟨0x7f7fffff⟩

/-- Reads a number, rounded once to this width. -/
def read? (s : Text) : Option Single := (Interchange.single.read? s).map ofPattern

/-- The shortest text that reads back as the number. -/
def render (x : Single) : Text := Interchange.single.render plainLayout x.bits.toNat

/-- The number nearest to a quotient, with a sign. -/
def ofRatio (negative : Bool) (numerator denominator : Nat) : Single :=
  ofPattern (Interchange.single.withSign negative
    (Interchange.single.magnitudeOfRatio numerator denominator))

/-- The number nearest to an integer. -/
def ofInt (n : Int) : Single := ofRatio (n < 0) n.natAbs 1

/-- The number with the value of a half precision pattern. -/
def ofHalf (bits : UInt16) : Single := ofPattern (Interchange.half.convert .single bits.toNat)

/-- The larger of a number and a bound below it. -/
def atLeast (x bound : Single) : Single := if x.orderKey < bound.orderKey then bound else x

/-- The same number in double precision. -/
def toDouble (x : Single) : Double :=
  ⟨UInt64.ofNat (Interchange.single.convert .double x.bits.toNat)⟩

/-- Whether at most `steps` representable numbers separate two numbers; a NaN is
    near every NaN and no number. -/
def within (steps : UInt32) (got expected : Single) : Bool :=
  if got.isNaN || expected.isNaN then got.isNaN && expected.isNaN
  else (got.orderKey - expected.orderKey).natAbs ≤ steps.toNat

end Single

namespace Double

/-- The number with the given pattern. -/
def ofPattern (bits : Nat) : Double := ⟨UInt64.ofNat bits⟩

def isNaN (x : Double) : Bool := Interchange.double.isNaN x.bits.toNat

/-- The place on the line of representable numbers. -/
def orderKey (x : Double) : Int := Interchange.double.orderKey x.bits.toNat

/-- Reads a number, rounded once to this width. -/
def read? (s : Text) : Option Double := (Interchange.double.read? s).map ofPattern

/-- The shortest text that reads back as the number. -/
def render (x : Double) : Text := Interchange.double.render plainLayout x.bits.toNat

/-- The nearest number in single precision. -/
def toSingle (x : Double) : Single :=
  .ofPattern (Interchange.double.convert .single x.bits.toNat)

/-- Whether at most `steps` representable numbers separate two numbers; a NaN is
    near every NaN and no number. -/
def within (steps : UInt32) (got expected : Double) : Bool :=
  if got.isNaN || expected.isNaN then got.isNaN && expected.isNaN
  else (got.orderKey - expected.orderKey).natAbs ≤ steps.toNat

end Double

end ShaderConformance
