/-!
# Text

Test files are read line by line, and every grammar works on the characters of
one line.  This module holds the text type, the class of blank characters
(the Unicode property `White_Space`), trimming, and the splitting of a line
into words and fields.

Main statements:

* `length_after?` what follows a matched front part is shorter by that part;
* `length_nextWord?` a word taken off a line leaves a strictly shorter line.
-/

namespace ShaderConformance

/-- The characters of a line or of a file. -/
abbrev Text := List Char

namespace Text

/-- The Unicode property `White_Space`. -/
def isBlank (c : Char) : Bool :=
  let n := c.toNat
  (9 ≤ n && n ≤ 13) || n == 0x20 || n == 0x85 || n == 0xA0 || n == 0x1680 ||
    (0x2000 ≤ n && n ≤ 0x200A) || n == 0x2028 || n == 0x2029 || n == 0x202F ||
    n == 0x205F || n == 0x3000

/-- Drops the blanks at the front. -/
def trimStart (s : Text) : Text := s.dropWhile isBlank

/-- Drops the blanks at the end. -/
def trimEnd (s : Text) : Text := (s.reverse.dropWhile isBlank).reverse

/-- Drops the blanks at both ends. -/
def trim (s : Text) : Text := trimEnd (trimStart s)

/-- Whether nothing but blanks is left. -/
def isBlankLine (s : Text) : Bool := s.all isBlank

/-- What follows `front` in `s`, if `s` starts with it. -/
def after? : (front s : Text) → Option Text
  | [], s => some s
  | _ :: _, [] => none
  | f :: fs, c :: cs => if f = c then after? fs cs else none

/-- The first word of a line, with the rest of the line without the blanks
    that follow it. -/
def nextWord? (s : Text) : Option (Text × Text) :=
  let line := trimStart s
  let word := line.takeWhile (!isBlank ·)
  if word.isEmpty then none
  else some (word, trimStart (line.dropWhile (!isBlank ·)))

/-- The words of a text: its longest runs without blanks, in order. -/
def words : Text → List Text
  | [] => []
  | c :: cs =>
    if isBlank c then words cs
    else
      match cs with
      | [] => [[c]]
      | d :: _ =>
        if isBlank d then [c] :: words cs
        else
          match words cs with
          | [] => [[c]]
          | w :: ws => (c :: w) :: ws

/-- The parts of a text between the occurrences of a separator; a text without
    one is a single part. -/
def splitAt (separator : Char) : Text → List Text
  | [] => [[]]
  | c :: cs =>
    if c = separator then [] :: splitAt separator cs
    else
      match splitAt separator cs with
      | [] => [[c]]
      | part :: parts => (c :: part) :: parts

/-- The fields of a comma-separated list, each without the blanks around it. -/
def fields (s : Text) : List Text := (splitAt ',' s).map trim

/-- Splits at the first occurrence of a separator. -/
def splitFirst? (separator : Char) : Text → Option (Text × Text)
  | [] => none
  | c :: cs =>
    if c = separator then some ([], cs)
    else (splitFirst? separator cs).map fun (before, behind) => (c :: before, behind)

/-- Splits at the last occurrence of a separator. -/
def splitLast? (separator : Char) (s : Text) : Option (Text × Text) :=
  (splitFirst? separator s.reverse).map fun (behind, before) => (before.reverse, behind.reverse)

/-- Whether `part` occurs in `s`. -/
def contains (s part : Text) : Bool :=
  match s with
  | [] => part.isEmpty
  | c :: cs => (after? part (c :: cs)).isSome || contains cs part

/-- The lines of a text.  A line ends at a line feed, and a carriage return just
    before the line feed belongs to the end of the line; a last line without a
    line feed counts if it has a character. -/
def lines (s : Text) : List Text :=
  let parts := splitAt '\n' s
  let ended := parts.dropLast.map fun line =>
    if line.getLast? = some '\r' then line.dropLast else line
  match parts.getLast? with
  | none | some [] => ended
  | some last => ended ++ [last]

/-! ## Lengths -/

/-- A text gets no longer without the blanks at its start. -/
theorem length_trimStart_le (s : Text) : (trimStart s).length ≤ s.length :=
  (List.dropWhile_sublist _).length_le

/-- A text is as long as a front and what stands behind it. -/
theorem length_after? {front s rest : Text} (h : after? front s = some rest) :
    s.length = front.length + rest.length := by
  induction front generalizing s with
  | nil => simp_all [after?]
  | cons f fs ih =>
    cases s with
    | nil => simp [after?] at h
    | cons c cs =>
      simp only [after?] at h
      split at h
      · have := ih h
        simp only [List.length_cons]
        omega
      · simp at h

/-- What stands behind a front is the rest of the text. -/
theorem after?_eq_some_iff {front s rest : Text} :
    after? front s = some rest ↔ s = front ++ rest := by
  induction front generalizing s with
  | nil => simp [after?, eq_comm]
  | cons f fs ih =>
    cases s with
    | nil => simp [after?]
    | cons c cs =>
      simp only [after?, List.cons_append, List.cons.injEq]
      split
      · simp_all
      · simp_all [eq_comm]

/-- What stands behind a word is shorter than the text. -/
theorem length_nextWord? {s word rest : Text} (h : nextWord? s = some (word, rest)) :
    rest.length < s.length := by
  unfold nextWord? at h
  simp only [] at h
  split at h
  · simp at h
  · rename_i hw
    simp only [Option.some.injEq, Prod.mk.injEq] at h
    obtain ⟨rfl, rfl⟩ := h
    have hlen := congrArg List.length
      (List.takeWhile_append_dropWhile (p := (!isBlank ·)) (l := trimStart s))
    have hne : 0 < ((trimStart s).takeWhile (!isBlank ·)).length := by
      cases hcase : (trimStart s).takeWhile (!isBlank ·) with
      | nil => simp [hcase] at hw
      | cons => simp
    have h1 := length_trimStart_le ((trimStart s).dropWhile (!isBlank ·))
    have h2 := length_trimStart_le s
    simp only [List.length_append] at hlen
    omega

end Text

end ShaderConformance
