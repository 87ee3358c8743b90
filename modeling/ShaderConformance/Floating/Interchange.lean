/-!
# Binary interchange formats

A floating-point number is kept as its bit pattern, so that every operation on
it is arithmetic on integers.  An interchange format is given by the widths of
its fraction and exponent fields.

Every finite magnitude is a whole number of *units*, one unit being the
smallest subnormal number.  `units` reads that number off a pattern.  Rounding
goes the other way: `magnitudeOfRatio` takes the exact quotient of two natural
numbers to the pattern of the nearest magnitude, and a tie goes to the even
pattern.
-/

namespace ShaderConformance.Floating

/-- The field widths of a binary interchange format. -/
structure Interchange where
  fractionBits : Nat
  exponentBits : Nat
deriving DecidableEq, Repr

namespace Interchange

/-- 16 bits. -/
def half : Interchange := ⟨10, 5⟩

/-- 32 bits. -/
def single : Interchange := ⟨23, 8⟩

/-- 64 bits. -/
def double : Interchange := ⟨52, 11⟩

variable (f : Interchange)

/-- The weight of the sign bit, one more than the largest magnitude pattern. -/
def signWeight : Nat := Nat.pow 2 (f.fractionBits + f.exponentBits)

/-- The pattern of positive infinity; a larger magnitude is not a number. -/
def infinity : Nat := (Nat.pow 2 f.exponentBits - 1) * Nat.pow 2 f.fractionBits

/-- The pattern of the quiet NaN with no other fraction bit set. -/
def quietNaN : Nat := f.infinity + Nat.pow 2 (f.fractionBits - 1)

/-- One unit is two to the power of minus this. -/
def unitScale : Nat := Nat.pow 2 (f.exponentBits - 1) - 2 + f.fractionBits

/-- Whether the sign bit of a pattern is set. -/
def isNegative (bits : Nat) : Bool := f.signWeight ≤ bits

/-- A pattern without its sign bit. -/
def magnitude (bits : Nat) : Nat := bits % f.signWeight

/-- Whether a pattern is not a number. -/
def isNaN (bits : Nat) : Bool := f.infinity < f.magnitude bits

/-- A magnitude pattern with a sign. -/
def withSign (negative : Bool) (magnitude : Nat) : Nat :=
  if negative then f.signWeight + magnitude else magnitude

/-- The value of a magnitude pattern in units.  On the pattern of infinity it is
    the value that the next exponent would have. -/
def units (magnitude : Nat) : Nat :=
  let leading := Nat.pow 2 f.fractionBits
  let exponent := magnitude / leading
  let fraction := magnitude % leading
  if exponent = 0 then fraction else (leading + fraction) * Nat.pow 2 (exponent - 1)

end Interchange

/-- The whole number nearest to a quotient; of two nearest ones the even one. -/
def roundHalfEven (numerator denominator : Nat) : Nat :=
  let quotient := numerator / denominator
  let twice := 2 * (numerator % denominator)
  if twice < denominator then quotient
  else if denominator < twice then quotient + 1
  else quotient + quotient % 2

namespace Interchange

variable (f : Interchange)

/-- The pattern of the magnitude nearest to a quotient.  In a binade the pattern
    grows by one with every step of the significand, and a significand that
    rounds up to a power of two carries into the exponent field; what rounds
    past the largest finite magnitude is infinite. -/
def magnitudeOfRatio (numerator denominator : Nat) : Nat :=
  let scaled := numerator * Nat.pow 2 f.unitScale
  let binade := (scaled / denominator).log2 - f.fractionBits
  let significand := roundHalfEven scaled (denominator * Nat.pow 2 binade)
  min f.infinity (binade * Nat.pow 2 f.fractionBits + significand)

/-- The magnitude pattern of another format for a magnitude pattern: that of the nearest number.
    A NaN becomes quiet and keeps the upper bits of its fraction. -/
def convertMagnitude (g : Interchange) (magnitude : Nat) : Nat :=
  if magnitude < f.infinity then
    g.magnitudeOfRatio (f.units magnitude) (Nat.pow 2 f.unitScale)
  else if magnitude = f.infinity then g.infinity
  else
    let fraction := magnitude % Nat.pow 2 f.fractionBits
    g.quietNaN + fraction * Nat.pow 2 g.fractionBits / Nat.pow 2 f.fractionBits %
      Nat.pow 2 (g.fractionBits - 1)

/-- The pattern of another format for a pattern, with the same sign. -/
def convert (g : Interchange) (bits : Nat) : Nat :=
  g.withSign (f.isNegative bits) (f.convertMagnitude g (f.magnitude bits))

/-- The place of a number on the line on which neighbouring numbers differ by
    one and both zeros meet. -/
def orderKey (bits : Nat) : Int :=
  if f.isNegative bits then -(f.magnitude bits : Int) else f.magnitude bits

end Interchange

end ShaderConformance.Floating
