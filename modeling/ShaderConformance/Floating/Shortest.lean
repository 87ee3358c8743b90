import ShaderConformance.Floating.Decimal

/-!
# The shortest digits of a floating-point number

A finite number is printed with the fewest digits that read back as the same
number; of several such digit strings, with the one nearest to the number, and
of two equally near ones, with the larger.

The numbers that round to a magnitude form an interval, which includes its ends
exactly if the magnitude's pattern is even.  For one digit, two digits and so on
the two neighbours of the number on that decimal grid are tested: the first grid
with a neighbour in the interval wins.
-/

namespace ShaderConformance.Floating

/-- The rational numbers `low / scale` to `high / scale` around `value / scale`
    that round to one magnitude. -/
structure RoundingInterval where
  low : Nat
  value : Nat
  high : Nat
  scale : Nat
  closed : Bool

namespace RoundingInterval

/-- Whether `n` times ten to the power of `exponent` lies in the interval. -/
def contains (i : RoundingInterval) (n : Nat) (exponent : Int) : Bool :=
  -- Everything is multiplied out, so that whole numbers are compared.
  let power := Nat.pow 10 exponent.natAbs
  let (n, k) := if exponent < 0 then (n * i.scale, power) else (n * i.scale * power, 1)
  if i.closed then i.low * k ≤ n && n ≤ i.high * k else i.low * k < n && n < i.high * k

/-- The value in steps of ten to the power of `exponent`, as a quotient. -/
def steps (i : RoundingInterval) (exponent : Int) : Nat × Nat :=
  let power := Nat.pow 10 exponent.natAbs
  if exponent < 0 then (i.value * power, i.scale) else (i.value, i.scale * power)

/-- The neighbour of the value on a decimal grid that lies in the interval: the
    nearer one first, and the upper one first if both are equally near. -/
def neighbour? (i : RoundingInterval) (exponent : Int) : Option Nat :=
  let (numerator, denominator) := i.steps exponent
  let lower := numerator / denominator
  let upper := lower + 1
  let (first, second) :=
    if denominator ≤ 2 * (numerator % denominator) then (upper, lower) else (lower, upper)
  if i.contains first exponent then some first
  else if i.contains second exponent then some second
  else none

/-- Tries grids from coarse to fine, at most `more` of them after the first. -/
def shortestFrom (i : RoundingInterval) (point : Int) : (more count : Nat) → Nat × Int
  | 0, count =>
    let exponent := point - count
    let (numerator, denominator) := i.steps exponent
    (roundHalfEven numerator denominator, exponent)
  | more + 1, count =>
    -- A grid of `count` digits: its step is the last of them.
    let exponent := point - count
    match i.neighbour? exponent with
    | some n => (n, exponent)
    | none => shortestFrom i point more (count + 1)

end RoundingInterval

namespace Interchange

variable (f : Interchange)

/-- The interval that rounds to a finite, nonzero magnitude. -/
def roundingInterval (magnitude : Nat) : RoundingInterval where
  low := f.units magnitude + f.units (magnitude - 1)
  value := 2 * f.units magnitude
  high := f.units magnitude + f.units (magnitude + 1)
  scale := 2 * Nat.pow 2 f.unitScale
  closed := magnitude % 2 = 0

/-- The number of digits that stand before the point of a number (or, when not
    positive, the negated number of zeros behind it). -/
def pointOf (i : RoundingInterval) : Int :=
  let shift := Nat.pow 2 f.exponentBits
  (digitCount (i.value * Nat.pow 10 shift / i.scale) : Int) - shift

/-- The shortest digits `n` and exponent `e` such that `n` times ten to the
    power of `e` reads back as the magnitude.  No binary format needs more
    digits than its pattern has bits. -/
def shortest (magnitude : Nat) : Nat × Int :=
  let i := f.roundingInterval magnitude
  i.shortestFrom (f.pointOf i) (f.fractionBits + f.exponentBits) 1

end Interchange

/-- How a floating-point number is laid out. -/
structure NumberLayout where
  /-- Fewest digits before the point at which an exponent is written. -/
  largeFrom : Int
  /-- Most digits before the point at which an exponent is written. -/
  smallUpTo : Int
  notANumber : String
  infinite : String
  exponentMark : String

/-- Numbers are written with a point and at least one digit on each side of it,
    from 0.0001 up to 16 digits; beyond, with the mark `e`. -/
def plainLayout : NumberLayout where
  largeFrom := 17
  smallUpTo := -4
  notANumber := "NaN"
  infinite := "inf"
  exponentMark := "e"

/-- Lays out digits with a point after the first `point` of them. -/
def positional (digits : Text) (point : Int) : Text :=
  if point ≤ 0 then "0.".toList ++ List.replicate point.natAbs '0' ++ digits
  else
    let before := digits.take point.natAbs
    let behind := digits.drop point.natAbs
    before ++ List.replicate (point.natAbs - digits.length) '0' ++ ['.'] ++
      (if behind.isEmpty then ['0'] else behind)

/-- Lays out digits with a point after the first and an exponent. -/
def withExponent (layout : NumberLayout) (digits : Text) (point : Int) : Text :=
  let behind := digits.drop 1
  digits.take 1 ++ (if behind.isEmpty then [] else '.' :: behind) ++
    layout.exponentMark.toList ++ (toString (point - 1)).toList

/-- Drops the zeros at the end of some digits. -/
def dropTrailingZeros (digits : Text) : Text :=
  (digits.reverse.dropWhile (· = '0')).reverse

namespace Interchange

variable (f : Interchange)

/-- The text of a magnitude. -/
def renderMagnitude (layout : NumberLayout) (magnitude : Nat) : Text :=
  if magnitude = 0 then "0.0".toList
  else
    let (n, exponent) := f.shortest magnitude
    let all := Nat.toDigits 10 n
    let digits := dropTrailingZeros all
    let point := (all.length : Int) + exponent
    if layout.largeFrom ≤ point ∨ point ≤ layout.smallUpTo then
      withExponent layout digits point
    else positional digits point

/-- The text of a number. -/
def render (layout : NumberLayout) (bits : Nat) : Text :=
  let magnitude := f.magnitude bits
  let sign : Text := if f.isNegative bits then ['-'] else []
  if f.isNaN bits then layout.notANumber.toList
  else if magnitude = f.infinity then sign ++ layout.infinite.toList
  else sign ++ f.renderMagnitude layout magnitude

end Interchange

end ShaderConformance.Floating
