import ShaderConformance.Text.LetterRanges

/-!
# Letters, digits and the characters of words

The classes follow Unicode; below 128 they are the ASCII letters and digits, and
a word may also hold an underscore.
-/

namespace ShaderConformance.Text

/-- Whether a code point lies in one of some ranges. -/
def inRanges (ranges : List (Nat × Nat)) (n : Nat) : Bool :=
  ranges.any fun (first, last) => first ≤ n && n ≤ last

/-- Letters and numbers of every kind. -/
def isAlphanumeric (c : Char) : Bool :=
  let n := c.toNat
  if n < 128 then c.isAlphanum
  else inRanges alphabeticRanges n || inRanges decimalRanges n || inRanges numberRanges n

/-- The characters of a word: letters, marks, decimal digits, connectors and join
    controls. -/
def isWordChar (c : Char) : Bool :=
  let n := c.toNat
  if n < 128 then c.isAlphanum || c == '_'
  else inRanges alphabeticRanges n || inRanges decimalRanges n || inRanges joiningRanges n

end ShaderConformance.Text
