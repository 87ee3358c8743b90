import ShaderConformance.Text.Basic

/-!
# Integers in text

An integer is written with decimal digits and at most one leading plus sign, or,
where a bit pattern is wanted, with `0x` and hexadecimal digits.  A number that
does not fit the wanted width is no number of that width.
-/

namespace ShaderConformance.Text

/-- The value of a digit, if the character is one in the given radix. -/
def digit? (radix : Nat) (c : Char) : Option Nat :=
  let value? :=
    if '0' ≤ c ∧ c ≤ '9' then some (c.toNat - '0'.toNat)
    else if 'a' ≤ c ∧ c ≤ 'z' then some (c.toNat - 'a'.toNat + 10)
    else if 'A' ≤ c ∧ c ≤ 'Z' then some (c.toNat - 'A'.toNat + 10)
    else none
  value?.filter (· < radix)

/-- Reads digits onto the value read so far. -/
def digitsOnto? (radix : Nat) : (value : Nat) → Text → Option Nat
  | value, [] => some value
  | value, c :: cs => (digit? radix c).bind fun d => digitsOnto? radix (value * radix + d) cs

/-- Reads a text made of digits, at least one. -/
def digits? (radix : Nat) (s : Text) : Option Nat :=
  if s.isEmpty then none else digitsOnto? radix 0 s

/-- Drops one plus sign at the front. -/
def dropPlus : Text → Text
  | '+' :: cs => cs
  | cs => cs

/-- Reads an unsigned integer below `bound`. -/
def unsigned? (radix bound : Nat) (s : Text) : Option Nat :=
  (digits? radix (dropPlus s)).filter (· < bound)

/-- Reads a signed integer of `bits` bits in decimal. -/
def signed? (bits : Nat) (s : Text) : Option Int :=
  let half := Nat.pow 2 (bits - 1)
  match s with
  | '-' :: cs => ((digits? 10 cs).filter (· ≤ half)).map fun n => -(n : Int)
  | _ => (unsigned? 10 half s).map fun n => (n : Int)

/-- Reads an unsigned 32-bit integer in decimal. -/
def uint32? (s : Text) : Option UInt32 :=
  (unsigned? 10 UInt32.size s).map UInt32.ofNat

/-- Reads an unsigned 64-bit integer in decimal. -/
def uint64? (s : Text) : Option UInt64 :=
  (unsigned? 10 UInt64.size s).map UInt64.ofNat

/-- Reads a signed 64-bit integer in decimal. -/
def int64? (s : Text) : Option Int64 :=
  (signed? 64 s).map Int64.ofInt

/-- The hexadecimal digits of a literal that starts with `0x` or `0X`. -/
def hexDigits? : Text → Option Text
  | '0' :: 'x' :: cs => some cs
  | '0' :: 'X' :: cs => some cs
  | _ => none

/-- Reads an unsigned 32-bit literal: decimal, or hexadecimal after `0x`. -/
def uint32Literal? (s : Text) : Option UInt32 :=
  match hexDigits? s with
  | some hex => (unsigned? 16 UInt32.size hex).map UInt32.ofNat
  | none => uint32? s

/-- Reads a signed 32-bit literal: a decimal integer, or else the bit pattern of
    an unsigned literal. -/
def int32Literal? (s : Text) : Option Int32 :=
  match signed? 32 s with
  | some n => some (Int32.ofInt n)
  | none => (uint32Literal? s).map UInt32.toInt32

end ShaderConformance.Text
