import ShaderConformance.Yaml.Scalar
import ShaderConformance.Yaml.Tag

/-!
# Tokens of YAML

A text is read as tokens.  Blocks have no marks of their own: they start at a column that
is deeper than that of the block around them, and end in front of the first token that
stands further left.  What starts a key is told by the colon behind it, so the tokens of a
key and of the block it opens are put in front of tokens that have been read before.
-/

namespace ShaderConformance.Yaml

inductive Token where
  | directive (d : Directive)
  | documentStart
  | documentEnd
  /-- A block of items with a dash in front of each starts. -/
  | blockList
  /-- A block of entries starts. -/
  | blockMapping
  | blockEnd
  | bracketOpen
  | bracketClose
  | braceOpen
  | braceClose
  | dash
  | comma
  /-- A key follows. -/
  | key
  /-- The value of a key follows. -/
  | value
  | reference (name : Text)
  | name (name : Text)
  | tag (t : Tag)
  | scalar (text : Text) (plain : Bool)
deriving DecidableEq, Repr

/-! ## Keys -/

/-- A place where a key starts, if a colon follows on the same line. -/
structure KeyStart where
  /-- The number of tokens before it. -/
  place : Nat
  line : Nat
  column : Nat
  /-- Whether nothing but a key may start here. -/
  required : Bool
deriving DecidableEq, Repr

namespace KeyStart

/-- The greatest number of characters in front of the colon of a key. -/
def longest : Nat := 1024

/-- Whether a colon at a position is too late for the key. -/
def isPast (k : KeyStart) (c : Cursor) : Bool :=
  k.line < c.line || k.column + longest < c.column

/-- The start of a key if it starts one. -/
abbrev Possible := Option KeyStart

/-- Gives a key up, unless it is required. -/
def drop? (k? : Possible) : Option Possible := if k?.any (·.required) then none else some none

/-- What is left of a key at a position. -/
def upTo? (c : Cursor) (k? : Possible) : Option Possible :=
  if k?.any (·.isPast c) then drop? k? else some k?

end KeyStart

/-! ## The state of reading -/

/-- How far a text has been read. -/
structure TokenReader where
  cursor : Cursor
  /-- The tokens up to here, the last one first. -/
  tokens : List Token
  /-- The columns of the blocks that are open, the innermost first. -/
  columns : List Nat
  /-- The key that may have been started between the innermost brackets. -/
  key? : KeyStart.Possible
  /-- The keys that may have been started around them, for each pair of brackets. -/
  outer : List KeyStart.Possible
  /-- Whether a key may start here. -/
  keyAllowed : Bool
deriving DecidableEq, Repr

namespace TokenReader

def start (s : Text) : TokenReader := ⟨.start s, [], [], none, [], true⟩

/-- Whether brackets are open. -/
def inFlow (r : TokenReader) : Bool := !r.outer.isEmpty

/-- The least column of what belongs to the innermost block. -/
def least (r : TokenReader) : Nat := r.columns.head?.elim 0 (· + 1)

/-- Takes the text in front of a rest over as a token. -/
def push (r : TokenReader) (t : Token) (rest : Text) (keyAllowed : Bool) : TokenReader :=
  { r with tokens := t :: r.tokens, cursor := r.cursor.goTo rest, keyAllowed }

/-- Puts a token at a place among those before. -/
def insert (r : TokenReader) (place : Nat) (t : Token) : TokenReader :=
  { r with tokens := r.tokens.insertIdx (r.tokens.length - place) t }

/-- Opens a block at a column, unless one is open there. -/
def openBlock (r : TokenReader) (t : Token) (column place : Nat) : TokenReader :=
  if !r.inFlow && r.least ≤ column then { r.insert place t with columns := column :: r.columns }
  else r

/-- Closes the blocks at a column and at deeper ones. -/
def closeBlocks (r : TokenReader) (column : Nat) : TokenReader :=
  if r.inFlow then r
  else
    { r with
      tokens := (r.columns.takeWhile (column ≤ ·)).map (fun _ => .blockEnd) ++ r.tokens
      columns := r.columns.dropWhile (column ≤ ·) }

/-- Gives the key up that may have been started. -/
def dropKey? (r : TokenReader) : Option TokenReader :=
  (KeyStart.drop? r.key?).map ({ r with key? := · })

/-- Notes that a key may start here. -/
def markKey? (r : TokenReader) : Option TokenReader :=
  if r.keyAllowed then
    r.dropKey?.map fun r =>
      let c := r.cursor
      let required := !r.inFlow && r.columns.head? = some c.column
      { r with key? := some ⟨r.tokens.length, c.line, c.column, required⟩ }
  else some r

/-! ## Tokens -/

/-- Skips what stands in front of the next token.  Keys of earlier lines and blocks that
    are further in end here. -/
def skip? (r : TokenReader) : Option TokenReader := do
  let c := r.cursor
  let (keyAllowed, c) := skipped r.inFlow r.keyAllowed false c.line c.column c.rest
  let key? ← KeyStart.upTo? c r.key?
  let outer ← r.outer.mapM (KeyStart.upTo? c)
  return { r with cursor := c, key?, outer, keyAllowed }.closeBlocks (c.column + 1)

/-- A token after which no block is open. -/
def outerToken? (r : TokenReader) (t : Token) (rest : Text) : Option TokenReader :=
  (r.closeBlocks 0).dropKey?.map (·.push t rest false)

/-- An opening bracket. -/
def open? (r : TokenReader) (t : Token) (rest : Text) : Option TokenReader :=
  r.markKey?.map fun r => { r.push t rest true with key? := none, outer := r.key? :: r.outer }

/-- A closing bracket. -/
def close? (r : TokenReader) (t : Token) (rest : Text) : Option TokenReader :=
  r.dropKey?.map fun r =>
    { r.push t rest false with key? := r.outer.head?.join, outer := r.outer.tail }

/-- A mark that opens a block unless brackets are open. -/
def blockMark? (r : TokenReader) (block t : Token) (rest : Text) (keyAllowed : Bool) :
    Option TokenReader :=
  if r.inFlow || r.keyAllowed then
    (r.openBlock block r.cursor.column r.tokens.length).dropKey?.map (·.push t rest keyAllowed)
  else none

/-- A colon.  Behind a key that was started, it marks that key as well. -/
def colon? (r : TokenReader) (rest : Text) : Option TokenReader :=
  match r.key? with
  | some k =>
    -- The block is opened at the key, so its token goes in front of that of the key.
    let r := (r.insert k.place .key).openBlock .blockMapping k.column k.place
    some ({ r with key? := none }.push .value rest false)
  | none => r.blockMark? .blockMapping .value rest !r.inFlow

/-- A token that may start a key. -/
def leaf? (r : TokenReader) (t : Token) (rest : Text) : Option TokenReader :=
  r.markKey?.map (·.push t rest false)

/-- A plain scalar.  A key may start on the line below. -/
def plain? (r : TokenReader) : Option TokenReader :=
  (plainScalar? r.inFlow r.least r.cursor.rest).bind fun p =>
    r.markKey?.map (·.push (.scalar (folded p.pieces) true) p.rest p.endsLine)

/-- Reads the token that starts here. -/
def token? (r : TokenReader) : Option TokenReader :=
  match r.cursor.rest with
  | [] => none
  | c :: rest =>
    -- Between brackets, a mark need not be followed by a blank.
    let marks := r.inFlow || startsBlank rest
    if c = '%' && r.cursor.column = 0 then
      (Directive.read? rest).bind fun (d, below) => r.outerToken? (.directive d) below
    else if r.cursor.atMarker then
      r.outerToken? (if c = '-' then .documentStart else .documentEnd) (rest.drop 2)
    else if c = '[' then r.open? .bracketOpen rest
    else if c = '\x7b' then r.open? .braceOpen rest
    else if c = ']' then r.close? .bracketClose rest
    else if c = '\x7d' then r.close? .braceClose rest
    else if c = ',' then r.dropKey?.map (·.push .comma rest true)
    else if c = '-' && startsBlank rest then r.blockMark? .blockList .dash rest true
    else if c = '?' && marks then r.blockMark? .blockMapping .key rest !r.inFlow
    else if c = ':' && marks then r.colon? rest
    else if c = '*' then (nodeName? rest).bind fun (name, after) => r.leaf? (.reference name) after
    else if c = '&' then (nodeName? rest).bind fun (name, after) => r.leaf? (.name name) after
    else if c = '!' then
      (Tag.read? r.inFlow rest).bind fun (t, after) => r.leaf? (.tag t) after
    else if (c = '|' || c = '>') && !r.inFlow then
      (blockScalar? (c = '>') r.least rest).bind fun (text, after) =>
        r.dropKey?.map (·.push (.scalar text false) after true)
    else if c = '\'' then
      (singleQuoted? rest).bind fun (p, after) => r.leaf? (.scalar (folded p) false) after
    else if c = '"' then
      (doubleQuoted? rest).bind fun (p, after) => r.leaf? (.scalar (folded p) false) after
    else if startsPlain r.inFlow (c :: rest) then r.plain?
    else none

/-- The tokens of a text that has been read up to here.  Each token is at least a
    character long. -/
def tokens? (r : TokenReader) : Option (List Token) :=
  match r.skip? with
  | none => none
  | some s =>
    if s.cursor.rest.isEmpty then (s.closeBlocks 0).dropKey?.map (·.tokens.reverse)
    else
      match s.token? with
      | none => none
      | some t => if t.cursor.rest.length < r.cursor.rest.length then tokens? t else none
termination_by r.cursor.rest.length

end TokenReader

/-- The tokens of a text. -/
def tokens? (s : Text) : Option (List Token) := (TokenReader.start s).tokens?

end ShaderConformance.Yaml
