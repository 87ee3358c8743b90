import ShaderConformance.Fault
import ShaderConformance.Floating.Number

/-!
# Keywords and operands of a line

Every grammar of a line is built from the same steps: match a keyword at the
front, make sure that it is a whole word, and go on with the rest of the line;
then read the operands.  A step that fails takes nothing off the line.

Main statement: `length_keyword?`, a matched keyword with at least one word
leaves a strictly shorter line; the loops over lines end because of it.
-/

namespace ShaderConformance.Text

/-- The characters that may follow a keyword directly. -/
def endsWord (c : Char) : Bool := isBlank c || c == '(' || c == ']'

/-- Matches one word of a keyword at the front of a line. -/
def keywordWord? (line word : Text) : Option Text :=
  match after? word (trimStart line) with
  | none => none
  | some [] => some []
  | some (c :: rest) => if endsWord c then some (c :: rest) else none

/-- Matches the words of a keyword one after the other; what follows the last
    word is kept as it is. -/
def keywordWords? (line : Text) : List Text → Option Text
  | [] => some line
  | word :: more => (keywordWord? line word).bind fun rest => keywordWords? rest more

/-- Matches a keyword and keeps the blanks that follow it. -/
def rawKeyword? (line keyword : Text) : Option Text := keywordWords? line (words keyword)

/-- Matches a keyword at the front of a line.  Blanks may precede it and stand
    between its words; it must be followed by the end of the line, a blank, an
    opening parenthesis or a closing bracket. -/
def keyword? (line : Text) (keyword : String) : Option Text :=
  (rawKeyword? line keyword.toList).map trimStart

/-- The longest entry of a table that matches at the front of a line. -/
def longest? {T : Type} (line : Text) : List (String × T) → Option (String × T × Text)
  | [] => none
  | (name, value) :: table =>
    match keyword? line name, longest? line table with
    | none, found => found
    | some rest, none => some (name, value, rest)
    | some rest, some (other, found) =>
      if other.utf8ByteSize < name.utf8ByteSize then some (name, value, rest)
      else some (other, found)

/-- Matches the longest name of a table, wherever it stands in the table, so that
    a name never hides one that continues it. -/
def tableKeyword? {T : Type} (line : Text) (table : List (String × T)) : Option (T × Text) :=
  (longest? line table).map Prod.snd

/-! ## Operands -/

/-- Reads an operand that must be there. -/
def operand {T : Type} (read? : Text → Option T) (line : Text) (what : String) :
    Except Fault (T × Text) :=
  match nextWord? line with
  | none => .error (.missing what)
  | some (word, rest) =>
    match read? word with
    | some value => .ok (value, rest)
    | none => .error (.malformed what word)

/-- Reads an unsigned integer. -/
def uint32Operand (line : Text) (what : String) : Except Fault (UInt32 × Text) :=
  operand uint32Literal? line what

/-- Reads a number. -/
def singleOperand (line : Text) (what : String) : Except Fault (Single × Text) :=
  operand Single.read? line what

/-- Reads several numbers, each under the same name. -/
def singleOperands (line : Text) (what : String) : (count : Nat) →
    Except Fault (Vector Single count × Text)
  | 0 => .ok (#v[], line)
  | count + 1 => do
    let (values, rest) ← singleOperands line what count
    let (value, rest) ← singleOperand rest what
    return (values.push value, rest)

/-- Reads some fields as 32-bit words. -/
def wordFields (what : String) : List Text → Except Fault (List UInt32)
  | [] => .ok []
  | field :: more =>
    match uint32Literal? field with
    | some w => (wordFields what more).map (w :: ·)
    | none => .error (.malformed what field)

/-- Refuses anything but blanks. -/
def endOfLine (line : Text) : Except Fault Unit :=
  if isBlankLine line then .ok () else .error (Fault.trailing (trim line))

/-! ## Lengths -/

/-- A word of a keyword takes at least its own characters from the line. -/
theorem length_keywordWord? {line word rest : Text} (h : keywordWord? line word = some rest) :
    word.length + rest.length ≤ line.length := by
  have hline := length_trimStart_le line
  unfold keywordWord? at h
  split at h
  · simp at h
  · rename_i hw
    have := length_after? hw
    simp_all
  · rename_i hw
    have := length_after? hw
    split at h
    · simp only [Option.some.injEq] at h
      subst h
      omega
    · simp at h

/-- The words of a keyword take at least their own characters from the line. -/
theorem length_keywordWords? {ws : List Text} {line rest : Text}
    (h : keywordWords? line ws = some rest) :
    ws.flatten.length + rest.length ≤ line.length := by
  induction ws generalizing line with
  | nil => simp_all [keywordWords?]
  | cons w ws ih =>
    -- The first word is taken off, and the others off what follows it.
    simp only [keywordWords?, Option.bind_eq_some_iff] at h
    obtain ⟨mid, hm, hr⟩ := h
    have h1 := length_keywordWord? hm
    have h2 := ih hr
    simp only [List.flatten_cons, List.length_append]
    omega

/-- What stands behind a keyword with words is shorter than the line. -/
theorem length_rawKeyword? {line keyword rest : Text} (h : rawKeyword? line keyword = some rest)
    (hk : 0 < (words keyword).flatten.length) : rest.length < line.length := by
  have := length_keywordWords? h
  omega

/-- What stands behind a keyword is shorter than the line. -/
theorem length_keyword? {line : Text} {keyword : String} {rest : Text}
    (h : keyword? line keyword = some rest)
    (hk : 0 < (words keyword.toList).flatten.length) : rest.length < line.length := by
  simp only [keyword?, Option.map_eq_some_iff] at h
  obtain ⟨raw, hraw, rfl⟩ := h
  have h1 := length_rawKeyword? hraw hk
  have h2 := length_trimStart_le raw
  omega

/-- Whether every name of a table has a word. -/
def HasWords {T : Type} (table : List (String × T)) : Prop :=
  ∀ entry ∈ table, 0 < (words entry.1.toList).flatten.length

instance {T : Type} (table : List (String × T)) : Decidable (HasWords table) :=
  inferInstanceAs (Decidable (∀ entry ∈ table, 0 < (words entry.1.toList).flatten.length))

/-- The longest entry is one of the table, and it begins the line. -/
theorem longest?_mem {T : Type} {line : Text} {table : List (String × T)} {name : String}
    {value : T} {rest : Text} (h : longest? line table = some (name, value, rest)) :
    (name, value) ∈ table ∧ keyword? line name = some rest := by
  induction table generalizing name value rest with
  | nil => simp [longest?] at h
  | cons entry table ih =>
    obtain ⟨n, v⟩ := entry
    simp only [longest?] at h
    split at h
    · have := ih h
      exact ⟨List.mem_cons_of_mem _ this.1, this.2⟩
    · rename_i hk _
      simp only [Option.some.injEq, Prod.mk.injEq] at h
      obtain ⟨rfl, rfl, rfl⟩ := h
      exact ⟨List.mem_cons_self, hk⟩
    · rename_i hk hl
      split at h
      · simp only [Option.some.injEq, Prod.mk.injEq] at h
        obtain ⟨rfl, rfl, rfl⟩ := h
        exact ⟨List.mem_cons_self, hk⟩
      · simp only [Option.some.injEq, Prod.mk.injEq] at h
        obtain ⟨rfl, rfl, rfl⟩ := h
        have := ih hl
        exact ⟨List.mem_cons_of_mem _ this.1, this.2⟩

/-- What stands behind an entry of a table is shorter than the line. -/
theorem length_tableKeyword? {T : Type} {line : Text} {table : List (String × T)} {value : T}
    {rest : Text} (h : tableKeyword? line table = some (value, rest)) (ht : HasWords table) :
    rest.length < line.length := by
  simp only [tableKeyword?, Option.map_eq_some_iff] at h
  obtain ⟨⟨name, v, r⟩, hfound, hsnd⟩ := h
  simp only [Prod.mk.injEq] at hsnd
  obtain ⟨rfl, rfl⟩ := hsnd
  obtain ⟨hmem, hk⟩ := longest?_mem hfound
  exact length_keyword? hk (ht _ hmem)

end ShaderConformance.Text
