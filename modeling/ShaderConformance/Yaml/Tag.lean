import ShaderConformance.Text.Integer
import ShaderConformance.Yaml.Cursor

/-!
# Tags of YAML

A tag says of what type a node is.  It is written in full, or as a shorthand: a handle
and the rest of the tag.  A document starts with directives; they say which version of
the format it has and what its handles stand for.  A node may also have a name, by which
it is referred to elsewhere.
-/

namespace ShaderConformance.Yaml

/-! ## Names -/

/-- Whether a character may stand in the name of a node, a handle or a directive. -/
def isNameChar (c : Char) : Bool := c.isAlphanum || c = '-' || c = '_'

/-- Reads the name of a node, and gives what follows it. -/
def nodeName? (s : Text) : Option (Text × Text) :=
  let name := s.takeWhile isNameChar
  let rest := s.dropWhile isNameChar
  if !name.isEmpty && (startsBlank rest || rest.head?.any ("?:,]\x7d%@`".contains ·)) then
    some (name, rest)
  else none

/-! ## Characters of a tag -/

/-- Whether a character may stand in a tag.  Commas and brackets may only where the end
    of the tag is marked (`marked`). -/
def isTagChar (marked : Bool) (c : Char) : Bool :=
  isNameChar c || ";/?:@&=+$.!~*'()".contains c || (marked && ",[]".contains c)

/-- The number of octets that belong to the same character behind an octet. -/
def followers? (octet : Nat) : Option Nat :=
  if octet < 0x80 then some 0
  else if octet / 0x20 = 6 then some 1
  else if octet / 0x10 = 14 then some 2
  else if octet / 8 = 30 then some 3
  else none

/-- Reads the characters of a tag, of which `due` escaped octets are missing to a whole
    character, and gives what follows them.  Each escaped octet is read as a character. -/
def tagChars? (marked : Bool) (due : Nat) (s : Text) : Option (Text × Text) :=
  match s with
  | '%' :: high :: low :: rest => do
    let octet ← Text.digits? 16 [high, low]
    -- Behind the first octet of a character come those from 0x80 to 0xbf.
    let due ←
      if due = 0 then followers? octet else if octet / 0x40 = 2 then some (due - 1) else none
    let (text, rest) ← tagChars? marked due rest
    return (Char.ofNat octet :: text, rest)
  | [] => if due = 0 then some ([], []) else none
  | c :: rest =>
    if due ≠ 0 || c = '%' then none
    else if isTagChar marked c then
      (tagChars? marked 0 rest).map fun (text, r) => (c :: text, r)
    else some ([], c :: rest)

/-- Reads characters of a tag, at least one.  What is behind a NUL is no part of it. -/
def tagText? (marked : Bool) (s : Text) : Option (Text × Text) :=
  (tagChars? marked 0 s).bind fun (text, rest) =>
    if text.isEmpty then none else some (text.takeWhile (· ≠ '\x00'), rest)

/-! ## Tags -/

/-- A tag as it is written. -/
structure Tag where
  /-- The handle of a shorthand; a tag that is written in full has an empty one. -/
  handle : Text
  text : Text
deriving DecidableEq, Repr

/-- What handles stand for. -/
abbrev Handles := List (Text × Text)

/-- What the handles stand for that every document has. -/
def Handles.standard : Handles := [(['!'], ['!']), (['!', '!'], "tag:yaml.org,2002:".toList)]

namespace Tag

/-- The tag in full, if its handle is known. -/
def full? (handles : Handles) (t : Tag) : Option Text :=
  if t.handle.isEmpty then some t.text else (handles.lookup t.handle).map (· ++ t.text)

/-- The tag with the handle `!`, or the one that is nothing but this mark. -/
def ofText (text : Text) : Tag := if text.isEmpty then ⟨[], ['!']⟩ else ⟨['!'], text⟩

/-- Reads a tag behind its mark. -/
def body? (s : Text) : Option (Tag × Text) :=
  let word := s.takeWhile isNameChar
  match s, s.dropWhile isNameChar with
  | '<' :: s, _ =>
    match tagText? true s with
    | some (text, '>' :: rest) => some (⟨[], text⟩, rest)
    | _ => none
  | _, '!' :: rest =>
    (tagText? false rest).map fun (text, r) => (⟨'!' :: word ++ ['!'], text⟩, r)
  -- The word was no handle, but the front of the tag.
  | s, _ => (tagChars? false 0 s).map fun (text, r) => (ofText (text.takeWhile (· ≠ '\x00')), r)

/-- Reads a tag behind its mark, in brackets or out of them, and gives what follows it. -/
def read? (flow : Bool) (s : Text) : Option (Tag × Text) :=
  (body? s).filter fun (_, rest) => startsBlank rest || (flow && rest.head? = some ',')

end Tag

/-! ## Directives -/

inductive Directive where
  | version (major minor : Nat)
  /-- Tags with the handle start with a text. -/
  | handle (handle start : Text)
deriving DecidableEq, Repr

namespace Directive

/-- Reads a number of a version, which has at most nine digits. -/
def number? (s : Text) : Option (Nat × Text) :=
  let digits := s.takeWhile Char.isDigit
  if digits.length ≤ 9 then
    (Text.digits? 10 digits).map fun n => (n, s.dropWhile Char.isDigit)
  else none

/-- Reads a version. -/
def version? (s : Text) : Option (Directive × Text) := do
  let (major, s) ← number? s
  match s with
  | '.' :: s => (number? s).map fun (minor, rest) => (version major minor, rest)
  | _ => none

/-- Reads a handle and what it stands for. -/
def handle? (s : Text) : Option (Directive × Text) := do
  let s ← Text.after? ['!'] s
  let word := s.takeWhile isNameChar
  let (name, s) ←
    match word, s.dropWhile isNameChar with
    | _, '!' :: s => some ('!' :: word ++ ['!'], s)
    | [], s => some (['!'], s)
    | _, _ => none
  if s.head?.any isSpace then
    let (start, rest) ← tagText? true (s.dropWhile isSpace)
    if startsBlank rest then return (handle name start, rest) else none
  else none

/-- The text behind the end of a line on which nothing more than a comment may follow. -/
def pastLine? (s : Text) : Option Text :=
  let s := s.dropWhile isSpace
  let s := if s.head? = some '#' then s.dropWhile (!isBreak ·) else s
  if s.head?.all isBreak then some (s.drop 1) else none

/-- Reads a line with a directive behind its mark, and gives the text below it. -/
def read? (s : Text) : Option (Directive × Text) := do
  let name := s.takeWhile isNameChar
  let rest := s.dropWhile isNameChar
  let value := rest.dropWhile isSpace
  let (d, rest) ←
    if !startsBlank rest then none
    else if name = "YAML".toList then version? value
    else if name = "TAG".toList then handle? value
    else none
  return (d, ← pastLine? rest)

end Directive

end ShaderConformance.Yaml
