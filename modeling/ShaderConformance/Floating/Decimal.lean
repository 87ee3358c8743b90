import ShaderConformance.Floating.Interchange
import ShaderConformance.Text.Integer

/-!
# Floating-point numbers in text

A number is an optional sign and either `inf`, `infinity` or `nan` in any case,
or decimal digits with an optional point and an optional exponent.  At least
one digit must stand before the exponent, on either side of the point.  The
digits are read exactly and rounded once, to the width that is wanted.
-/

namespace ShaderConformance.Floating

open Text

/-- A magnitude as it is written. -/
inductive Written where
  | infinite
  | notANumber
  /-- `digits` times ten to the power of `exponent`. -/
  | decimal (digits : Nat) (exponent : Int)
deriving DecidableEq, Repr

/-- The lower-case form of an ASCII letter; other characters are kept. -/
def lowerCase (s : Text) : Text := s.map Char.toLower

/-- Reads the digits of a signed exponent. -/
def exponent? (s : Text) : Option Int :=
  match s with
  | '-' :: cs => (digits? 10 cs).map fun n => -(n : Int)
  | _ => (digits? 10 (dropPlus s)).map fun n => (n : Int)

/-- Reads the exponent that follows the digits; an empty text is the exponent
    zero. -/
def exponentPart? : Text → Option Int
  | [] => some 0
  | c :: cs => if c = 'e' ∨ c = 'E' then exponent? cs else none

/-- Reads digits with an optional point and an optional exponent. -/
def decimal? (s : Text) : Option Written :=
  let whole := s.takeWhile Char.isDigit
  let behind := s.dropWhile Char.isDigit
  let (fraction, tail) :=
    match behind with
    | '.' :: cs => (cs.takeWhile Char.isDigit, cs.dropWhile Char.isDigit)
    | _ => ([], behind)
  -- The digits on both sides of the point are one number; `digits?` refuses none at all.
  (digits? 10 (whole ++ fraction)).bind fun digits =>
    (exponentPart? tail).map fun exponent => .decimal digits (exponent - fraction.length)

/-- Reads a magnitude. -/
def written? (s : Text) : Option Written :=
  let name := lowerCase s
  if name = "inf".toList ∨ name = "infinity".toList then some .infinite
  else if name = "nan".toList then some .notANumber
  else decimal? s

/-- The number of decimal digits of a positive number. -/
def digitCount (n : Nat) : Nat := (Nat.toDigits 10 n).length

namespace Interchange

variable (f : Interchange)

/-- The pattern of a written magnitude.  A decimal whose first digit stands
    further from the point than the widths of the format can reach is infinite
    or zero without its power of ten being computed. -/
def magnitudeOfWritten : Written → Nat
  | .infinite => f.infinity
  | .notANumber => f.quietNaN
  | .decimal digits exponent =>
    let reach : Int := Nat.pow 2 f.exponentBits
    let point := (digitCount digits : Int) + exponent
    if digits = 0 then 0
    else if reach < point then f.infinity
    else if point < -reach then 0
    else if exponent < 0 then f.magnitudeOfRatio digits (Nat.pow 10 exponent.natAbs)
    else f.magnitudeOfRatio (digits * Nat.pow 10 exponent.natAbs) 1

/-- Reads the pattern of a number. -/
def read? (s : Text) : Option Nat :=
  match s with
  | '-' :: cs => (written? cs).map fun w => f.withSign true (f.magnitudeOfWritten w)
  | _ => (written? (dropPlus s)).map fun w => f.withSign false (f.magnitudeOfWritten w)

end Interchange

end ShaderConformance.Floating
