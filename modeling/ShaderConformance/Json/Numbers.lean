import ShaderConformance.Floating.Number
import ShaderConformance.Json.Basic

/-!
# Bytes and floating-point numbers in JSON

Both are written as lower-case hexadecimal digits: bytes in order, and a number by its
pattern, unless it is not a number.
-/

namespace ShaderConformance

namespace Json

/-- The digits of a number, with zeros in front up to a width. -/
def hexDigits (width n : Nat) : String :=
  let digits := Nat.toDigits 16 n
  String.ofList (List.replicate (width - digits.length) '0' ++ digits)

/-- Appends the two digits of a byte. -/
def pushByte (out : String) (b : UInt8) : String :=
  (out.push (Nat.digitChar (b.toNat / 16))).push (Nat.digitChar (b.toNat % 16))

def ofBytes (bytes : List UInt8) : Json := str (bytes.foldl pushByte "")

def ofByteArray (bytes : ByteArray) : Json := str (bytes.foldl pushByte "")

def ofText (s : Text) : Json := str (String.ofList s)

end Json

def Single.toJson (x : Single) : Json :=
  .str (if x.isNaN then "nan" else Json.hexDigits 8 x.bits.toNat)

def Double.toJson (x : Double) : Json :=
  .str (if x.isNaN then "nan" else Json.hexDigits 16 x.bits.toNat)

end ShaderConformance
