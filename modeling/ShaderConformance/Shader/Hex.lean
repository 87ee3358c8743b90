import ShaderConformance.Fault
import ShaderConformance.Shader.Basic

/-!
# Precompiled sources

Precompiled code stands in a test file as hexadecimal digits, two for a byte, in
either case and with any blanks between them.
-/

namespace ShaderConformance.Shader

/-- The values of some digits; a character that is none is refused. -/
def digitValues : Text → Except Fault (List UInt8)
  | [] => .ok []
  | c :: cs =>
    match Text.digit? 16 c with
    | some d => (digitValues cs).map (UInt8.ofNat d :: ·)
    | none => .error (.hexDigit c)

/-- Joins digits two by two, the high one first. -/
def bytesOfDigits : List UInt8 → Except Fault (List UInt8)
  | [] => .ok []
  | [_] => .error .oddHexDigits
  | high :: low :: digits => (bytesOfDigits digits).map ((high * 16 + low) :: ·)

/-- The bytes that a text of hexadecimal digits stands for. -/
def decodeHex (s : Text) : Except Fault (List UInt8) :=
  (digitValues (s.filter (!Text.isBlank ·))).bind bytesOfDigits

end ShaderConformance.Shader
