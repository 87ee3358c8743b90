import ShaderConformance.Text.Integer
import ShaderConformance.Yaml.Cursor

/-!
# Scalars of YAML

A scalar is written plainly, between quotation marks or as a block of lines.  Line
breaks in plain and quoted scalars are folded: a line feed, with the blanks around it,
is a space, and each further one is kept.
-/

namespace ShaderConformance.Yaml

/-! ## Folding -/

/-- A part of a scalar as it is written. -/
inductive Piece where
  | char (c : Char)
  | space (c : Char)
  | lineBreak (c : Char)
  /-- An escaped line break. -/
  | join
deriving DecidableEq, Repr

namespace Piece

/-- A character that is written as it is. -/
def ofChar (c : Char) : Piece :=
  if isBreak c then .lineBreak c else if isSpace c then .space c else .char c

def space? : Piece → Option Char
  | .space c => some c
  | _ => none

def lineBreak? : Piece → Option Char
  | .lineBreak c => some c
  | _ => none

end Piece

/-- The text of the line breaks between two words.  Only a line feed is folded. -/
def foldedBreaks : Text → Text
  | ['\n'] => [' ']
  | '\n' :: more => more
  | breaks => breaks

/-- The text of the spaces and line breaks between two characters. -/
def gapText (gap : List Piece) : Text :=
  let breaks := gap.filterMap Piece.lineBreak?
  -- Behind an escaped break only further breaks count.
  if gap.head? = some .join then breaks
  else if breaks.isEmpty then gap.filterMap Piece.space?
  else foldedBreaks breaks

/-- The text of pieces that follow a gap. -/
def foldGap (gap : List Piece) : List Piece → Text
  | [] => gapText gap
  | .char c :: more => gapText gap ++ c :: foldGap [] more
  | .join :: more => gapText gap ++ foldGap [.join] more
  | p :: more => foldGap (gap ++ [p]) more

/-- The text of pieces. -/
def folded (pieces : List Piece) : Text := foldGap [] pieces

/-! ## Quotation marks -/

/-- The pieces up to a single quotation mark, and what follows it.  A mark that is
    written twice is a character. -/
def singleQuoted? : Text → Option (List Piece × Text)
  | [] => none
  | '\'' :: '\'' :: rest => (singleQuoted? rest).map fun (p, r) => (.char '\'' :: p, r)
  | '\'' :: rest => some ([], rest)
  | c :: rest =>
    if isBreak c && isMarker rest then none
    else (singleQuoted? rest).map fun (p, r) => (.ofChar c :: p, r)

/-- The characters that are escaped by one letter. -/
def letterEscapes : List (Char × Nat) :=
  [('0', 0), ('a', 7), ('b', 8), ('t', 9), ('\t', 9), ('n', 10), ('v', 11), ('f', 12), ('r', 13),
   ('e', 27), (' ', 32), ('"', 34), ('/', 47), ('\\', 92), ('N', 0x85), ('_', 0xa0),
   ('L', 0x2028), ('P', 0x2029)]

/-- The number of digits after the letters that escape a character by its number. -/
def digitEscapes : List (Char × Nat) := [('x', 2), ('u', 4), ('U', 8)]

/-- The character with a number, if there is one. -/
def charOf? (n : Nat) : Option Char := if n.isValidChar then some (Char.ofNat n) else none

/-- The character that a letter after a backslash stands for, with the number of
    digits behind the letter that belong to it. -/
def escaped? (letter : Char) (rest : Text) : Option (Char × Nat) :=
  match letterEscapes.lookup letter with
  | some n => some (Char.ofNat n, 0)
  | none => do
    let count ← digitEscapes.lookup letter
    let digits := rest.take count
    let n ← if digits.length = count then Text.digits? 16 digits else none
    return (← charOf? n, count)

/-- The pieces up to a double quotation mark, and what follows it. -/
def doubleQuoted? (s : Text) : Option (List Piece × Text) :=
  match s with
  | [] => none
  | '"' :: rest => some ([], rest)
  | '\\' :: letter :: rest =>
    -- An escaped break joins two lines.
    if isBreak letter then
      if isMarker rest then none
      else (doubleQuoted? rest).map fun (p, r) => (.join :: p, r)
    else
      match escaped? letter rest with
      | none => none
      | some (c, digits) =>
        (doubleQuoted? (rest.drop digits)).map fun (p, r) => (.char c :: p, r)
  | c :: rest =>
    if isBreak c && isMarker rest then none
    else (doubleQuoted? rest).map fun (p, r) => (.ofChar c :: p, r)
termination_by s.length
decreasing_by all_goals simp only [List.length_cons, List.length_drop]; omega

/-! ## Plain scalars -/

/-- Whether a character has a meaning of its own between brackets. -/
def isFlowIndicator (c : Char) : Bool := ",[]\x7b\x7d".contains c

/-- Whether a plain scalar may start here, in brackets or out of them. -/
def startsPlain (flow : Bool) : Text → Bool
  | [] => false
  | c :: rest =>
    if c = '-' then !startsBlank rest
    else if c = '?' || c = ':' then !flow && !startsBlank rest
    else !isGap c && !isFlowIndicator c && !"#&*!|>'\"%@`".contains c

/-- Takes a word of a plain scalar off a text.  A colon in front of a blank ends the
    word, and so does an indicator between brackets. -/
def plainWord? (flow : Bool) : Text → Option (Text × Text)
  | [] => some ([], [])
  | c :: rest =>
    if isGap c || (c = ':' && startsBlank rest) || (flow && isFlowIndicator c) then
      some ([], c :: rest)
    -- A colon in front of an indicator is neither part of the word nor the end of it.
    else if flow && c = ':' && rest.head?.any (fun d => isFlowIndicator d || d = '?') then none
    else (plainWord? flow rest).map fun (word, r) => (c :: word, r)

/-- The characters after the last line break, if there is one. -/
def lastLine? (gap : Text) : Option Text :=
  if gap.any isBreak then some (gap.reverse.takeWhile (!isBreak ·)).reverse else none

/-- Whether a tab stands where a line would have to be indented by spaces; `column` is
    absent before the first line break. -/
def tabIndents (least : Nat) : (column : Option Nat) → Text → Bool
  | _, [] => false
  | column, c :: rest =>
    if isBreak c then tabIndents least (some 0) rest
    else (c = '\t' && column.any (· < least)) || tabIndents least (column.map (· + 1)) rest

/-- Whether a plain scalar goes on after a gap.  A comment ends it, and out of brackets
    so does a line that is not indented. -/
def goesOn (flow : Bool) (least : Nat) (gap rest : Text) : Bool :=
  match rest with
  | [] => false
  | c :: _ =>
    c ≠ '#' && (lastLine? gap).all fun blanks =>
      (flow || least ≤ blanks.length) && !(blanks.isEmpty && isMarker rest)

/-- What a plain scalar is read as. -/
structure PlainScalar where
  pieces : List Piece
  /-- Whether a line ends behind it. -/
  endsLine : Bool
  /-- What follows it and the blanks behind it. -/
  rest : Text

/-- The part of a plain scalar after its first word.  A line that goes on with it starts
    at the column `least` or behind it. -/
def plainTail? (flow : Bool) (least : Nat) (s : Text) : Option PlainScalar :=
  let gap := s.takeWhile isGap
  let rest := s.dropWhile isGap
  let ended : PlainScalar := ⟨[], gap.any isBreak, rest⟩
  if tabIndents least none gap then none
  else if gap.isEmpty || !goesOn flow least gap rest then some ended
  else
    match plainWord? flow rest with
    | none => none
    | some (word, after) =>
      -- A word that is not empty is always taken off; the comparison lets the recursion end.
      if after.length < s.length && !word.isEmpty then
        (plainTail? flow least after).map fun t =>
          { t with pieces := gap.map .ofChar ++ word.map .char ++ t.pieces }
      else some ended
termination_by s.length
decreasing_by simp_all

/-- Reads a plain scalar. -/
def plainScalar? (flow : Bool) (least : Nat) (s : Text) : Option PlainScalar :=
  (plainWord? flow s).bind fun (word, after) =>
    (plainTail? flow least after).map fun t => { t with pieces := word.map .char ++ t.pieces }

/-! ## Blocks of lines -/

/-- What becomes of the line breaks at the end of a block. -/
inductive Chomping where
  /-- All are dropped. -/
  | strip
  /-- One is kept. -/
  | clip
  /-- All are kept. -/
  | keep
deriving DecidableEq, Repr

/-- How a block of lines is read. -/
structure BlockStyle where
  /-- Whether single line breaks are folded. -/
  folds : Bool
  chomping : Chomping
  /-- The further indentation of the lines, if it is given. -/
  indent? : Option Nat
deriving DecidableEq, Repr

namespace BlockStyle

/-- Reads the indicators after `|` or `>`. -/
def withIndicators? (b : BlockStyle) : Text → Option BlockStyle
  | [] => some b
  | ['+'] => some { b with chomping := .keep }
  | ['-'] => some { b with chomping := .strip }
  | [d] => (indentOf? d).map fun n => { b with indent? := some n }
  | [c, d] =>
    if c = '+' || c = '-' then
      (indentOf? d).map fun n =>
        { b with indent? := some n, chomping := if c = '+' then .keep else .strip }
    else if d = '+' || d = '-' then
      (indentOf? c).map fun n =>
        { b with indent? := some n, chomping := if d = '+' then .keep else .strip }
    else none
  | _ => none
where
  /-- The indentation that a digit asks for. -/
  indentOf? (d : Char) : Option Nat := (Text.digit? 10 d).filter (0 < ·)

end BlockStyle

/-- A line with the break that ends it; the last line of a text has none. -/
structure Line where
  text : Text
  ending : Option Char
deriving DecidableEq, Repr

namespace Line

/-- The lines of a text. -/
def ofText : Text → List Line
  | [] => [⟨[], none⟩]
  | c :: rest =>
    if isBreak c then ⟨[], some c⟩ :: ofText rest
    else
      match ofText rest with
      | [] => [⟨[c], none⟩]
      | l :: more => { l with text := c :: l.text } :: more

/-- The text of lines. -/
def toText (lines : List Line) : Text := lines.flatMap fun l => l.text ++ l.ending.toList

/-- The number of spaces at the front of a line. -/
def indent (l : Line) : Nat := (l.text.takeWhile (· = ' ')).length

/-- Whether a line has only spaces, and another line follows it. -/
def isEmpty (l : Line) : Bool := l.text.all (· = ' ') && l.ending.isSome

end Line

/-- The indentation of a block: as deep as its first line with a character, or as the
    deepest empty line before it, and at least `least`.  A tab must not follow the
    indentation of that first line. -/
def blockIndent? (least : Nat) (lines : List Line) : Option Nat :=
  let first := (lines.dropWhile Line.isEmpty).head?
  if first.any fun l => l.text[l.indent]? = some '\t' then none
  else
    let front := lines.takeWhile Line.isEmpty ++ first.toList
    some ((front.map Line.indent).foldl max (max least 1))

/-- What has been read of a block. -/
structure BlockText where
  text : Text
  /-- The break that ends the last line with a character. -/
  ending : Text
  /-- Whether that line starts with a blank. -/
  deep : Bool
  /-- The breaks of the empty lines behind it. -/
  breaks : Text

namespace BlockText

def empty : BlockText := ⟨[], [], false, []⟩

/-- The breaks in front of a further line.  Those around deeper lines are not folded. -/
def between (b : BlockText) (folds deep : Bool) : Text :=
  if folds && b.ending = ['\n'] && !b.deep && !deep then
    if b.breaks.isEmpty then [' '] else b.breaks
  else b.ending ++ b.breaks

/-- Takes a line with a character in. -/
def push (b : BlockText) (folds : Bool) (content : Text) (ending : Option Char) : BlockText :=
  let deep := content.head?.any isSpace
  ⟨b.text ++ b.between folds deep ++ content, ending.toList, deep, []⟩

/-- The text of a block without further lines. -/
def finished (b : BlockText) : Chomping → Text
  | .strip => b.text
  | .clip => b.text ++ b.ending
  | .keep => b.text ++ b.ending ++ b.breaks

end BlockText

/-- Reads the lines of a block, and gives the lines that follow it.  A tab must not stand
    in the indentation of a line. -/
def blockLines? (folds : Bool) (indent : Nat) (b : BlockText) :
    List Line → Option (BlockText × List Line)
  | [] => some (b, [])
  | l :: more =>
    let spaces := min l.indent indent
    let content := l.text.drop spaces
    match content, l.ending with
    -- An empty line only adds its break.
    | [], some c => blockLines? folds indent { b with breaks := b.breaks ++ [c] } more
    | [], none => some (b, l :: more)
    | d :: _, ending =>
      -- A line that is not indented enough is the first one behind the block.
      if spaces = indent then blockLines? folds indent (b.push folds content ending) more
      else if d = '\t' then none
      else some (b, l :: more)

/-- Reads a block below its header line, in a text whose blocks are indented by `least` at
    least, and gives what follows it. -/
def blockBody? (b : BlockStyle) (least : Nat) (s : Text) : Option (Text × Text) :=
  let lines := Line.ofText s
  let indent? :=
    match b.indent? with
    | some n => some (least - 1 + n)
    | none => blockIndent? least lines
  indent?.bind fun indent =>
    (blockLines? b.folds indent .empty lines).map fun (t, rest) =>
      (t.finished b.chomping, Line.toText rest)

/-- Whether a character may stand among the indicators of a block. -/
def isBlockIndicator (c : Char) : Bool := c = '+' || c = '-' || c.isDigit

/-- Reads a block behind its mark: indicators and perhaps a comment, and lines below. -/
def blockScalar? (folds : Bool) (least : Nat) (s : Text) : Option (Text × Text) :=
  let header := s.takeWhile (!isBreak ·)
  let tail := (header.dropWhile isBlockIndicator).dropWhile isSpace
  if !tail.isEmpty && tail.head? ≠ some '#' then none
  else
    (BlockStyle.withIndicators? ⟨folds, .clip, none⟩ (header.takeWhile isBlockIndicator)).bind
      fun b => blockBody? b least (s.drop (header.length + 1))

end ShaderConformance.Yaml
