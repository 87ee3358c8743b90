import ShaderConformance.Text.Basic

/-!
# Positions in a YAML text

The structure of a YAML text is told by its lines and columns.  Line feeds, carriage
returns, pairs of those and the next-line character all end a line alike, so a text is
first written with line feeds for them; the separators of lines and of paragraphs end a
line too and are kept as they are.
-/

namespace ShaderConformance.Yaml

/-! ## Characters -/

/-- Whether a character separates words on a line. -/
def isSpace (c : Char) : Bool := c = ' ' || c = '\t'

/-- Whether a character ends a line. -/
def isBreak (c : Char) : Bool := c = '\n' || c = '\u2028' || c = '\u2029'

/-- Whether a character separates words. -/
def isGap (c : Char) : Bool := isSpace c || isBreak c

/-- The mark of the order of bytes. -/
def byteOrderMark : Char := '\ufeff'

/-- Whether a character may stand in a text. -/
def isAllowed (c : Char) : Bool :=
  let n := c.toNat
  n = 0x09 || n = 0x0a || n = 0x0d || (0x20 ≤ n && n ≤ 0x7e) || n = 0x85 ||
    (0xa0 ≤ n && n ≤ 0xd7ff) || (0xe000 ≤ n && n ≤ 0xfffd) || 0x10000 ≤ n

/-- A text with a line feed for every other way to end a line like one. -/
def withLineFeeds : Text → Text
  | [] => []
  | '\r' :: '\n' :: rest => '\n' :: withLineFeeds rest
  | c :: rest => (if c = '\r' || c = '\u0085' then '\n' else c) :: withLineFeeds rest

/-- Whether a text starts with a blank or ends. -/
def startsBlank (s : Text) : Bool := s.head?.all isGap

/-- Whether a line is marked as the start or the end of a document. -/
def isMarker (line : Text) : Bool :=
  let mark := line.take 3
  (mark = ['-', '-', '-'] || mark = ['.', '.', '.']) && startsBlank (line.drop 3)

/-! ## Positions -/

/-- A position in a text. -/
structure Cursor where
  /-- What is next. -/
  rest : Text
  line : Nat
  column : Nat
deriving DecidableEq, Repr

namespace Cursor

def start (s : Text) : Cursor := ⟨s, 0, 0⟩

/-- The position after a character. -/
def next (c : Cursor) : Cursor :=
  match c.rest with
  | [] => c
  | d :: rest => if isBreak d then ⟨rest, c.line + 1, 0⟩ else ⟨rest, c.line, c.column + 1⟩

/-- The position after some characters. -/
def advance : Nat → Cursor → Cursor
  | 0, c => c
  | n + 1, c => advance n c.next

/-- The position where a text is next that is the end of what is next. -/
def goTo (c : Cursor) (rest : Text) : Cursor := advance (c.rest.length - rest.length) c

/-- Whether a line that is marked as the start or the end of a document starts here. -/
def atMarker (c : Cursor) : Bool := c.column = 0 && isMarker c.rest

end Cursor

/-! ## Between words -/

/-- Skips what stands between two words: blanks, comments and line breaks, and the mark of
    the order of bytes at the start of a line.  Out of brackets a key may start on every
    new line, and a tab is no blank where one may (`keys`), so that tabs indent nothing.
    Gives whether a key may start behind what was skipped, and the position there. -/
def skipped (flow : Bool) : (keys comment : Bool) → (line column : Nat) → Text → Bool × Cursor
  | keys, _, line, column, [] => (keys, ⟨[], line, column⟩)
  | keys, comment, line, column, c :: rest =>
    if isBreak c then skipped flow (keys || !flow) false (line + 1) 0 rest
    else if comment || c = ' ' || (c = '\t' && (flow || !keys)) ||
        (c = byteOrderMark && column = 0) then
      skipped flow keys comment line (column + 1) rest
    else if c = '#' then skipped flow keys true line (column + 1) rest
    else (keys, ⟨c :: rest, line, column⟩)

end ShaderConformance.Yaml
