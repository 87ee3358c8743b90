import Mathlib.Data.List.Basic
import ShaderConformance.Floating.Number
import ShaderConformance.Proofs.QualifierGrammar
import ShaderConformance.Text.Keyword

/-!
# Words, lists and numerals

A line is read word by word, and a list between parentheses field by field.  The words and
fields that are read as numbers have no characters that mean something around them.

## Main definitions

- `Text.IsWord`: a text that is one word
- `Text.commaList`: texts as the fields of a list
- `Text.IsNumeral`: a text of characters that numbers are written with

## Main statements

- `words_eq_cons_iff`: the first word of a line is the next word that is taken off it
- `fields_commaList`: the fields of a list are the texts that it was made of
- `isNumeral_of_int32Literal?`, `isNumeral_of_read?` and others: what is read as a number is
  a numeral
-/

namespace ShaderConformance

open Text

/-! ## Words -/

/-- A text that is one word. -/
structure Text.IsWord (w : Text) : Prop where
  nonempty : w ≠ []
  solid : ∀ c ∈ w, isBlank c = false

/-- A text that does not go on with a word. -/
abbrev Text.BetweenWords (s : Text) : Prop := s.Stops (!isBlank ·)

/-- A blank in front adds no word. -/
theorem words_blank {c : Char} (h : isBlank c = true) (s : Text) : words (c :: s) = words s := by
  rw [words.eq_def]
  simp [h]

/-- Blanks at the start are between no words. -/
theorem words_trimStart (s : Text) : words (trimStart s) = words s := by
  induction s with
  | nil => rfl
  | cons c s ih =>
    by_cases hc : isBlank c = true
    · rw [words_blank hc, ← ih, trimStart, List.dropWhile_cons_of_pos hc]
      rfl
    · rw [trimStart, List.dropWhile_cons_of_neg hc]

/-- A word of one character ends before a blank. -/
theorem words_before_blank {c b : Char} (hc : isBlank c = false) (hb : isBlank b = true)
    (s : Text) : words (c :: b :: s) = [c] :: words (b :: s) := by
  rw [words.eq_def]
  simp only [hc, hb, Bool.false_eq_true, if_true, if_false]

/-- A character that is not blank goes in front of the word that follows it. -/
theorem words_before_word {c d : Char} (hc : isBlank c = false) (hd : isBlank d = false)
    {s w : Text} {ws : List Text} (h : words (d :: s) = w :: ws) :
    words (c :: d :: s) = (c :: w) :: ws := by
  rw [words.eq_def]
  simp only [hc, hd, h, Bool.false_eq_true, if_false]

theorem words_append {w rest : Text} (hw : w.IsWord) (hrest : rest.BetweenWords) :
    words (w ++ rest) = w :: words rest := by
  obtain ⟨hne, hsolid⟩ := hw
  induction w with
  | nil => exact absurd rfl hne
  | cons c w ih =>
    have hc : isBlank c = false := hsolid c List.mem_cons_self
    cases w with
    | nil =>
      -- The word ends here, at the end of the text or before a blank.
      cases rest with
      | nil =>
        rw [List.append_nil, words.eq_def]
        simp only [hc, Bool.false_eq_true, if_false]
        rfl
      | cons b rest =>
        have hb : isBlank b = true := by simpa using stops_cons_iff.mp hrest
        exact words_before_blank hc hb rest
    | cons d w =>
      have hd : isBlank d = false := hsolid d (by simp)
      have hmore := ih (by simp) fun e he => hsolid e (List.mem_cons_of_mem _ he)
      exact words_before_word hc hd hmore

/-- The next word ends at what stands between words. -/
theorem nextWord?_eq_some {s w rest : Text} (h : nextWord? s = some (w, rest)) :
    w.IsWord ∧ ∃ behind : Text,
      trimStart s = w ++ behind ∧ behind.BetweenWords ∧ rest = trimStart behind := by
  unfold nextWord? at h
  dsimp only at h
  split at h
  · cases h
  · rename_i hne
    obtain ⟨rfl, rfl⟩ := Prod.mk.inj (Option.some.inj h)
    have hsolid : ∀ c ∈ (trimStart s).takeWhile (!isBlank ·), isBlank c = false := by
      intro c hc
      simpa using List.mem_takeWhile_imp hc
    have hword : Text.IsWord ((trimStart s).takeWhile (!isBlank ·)) :=
      ⟨by simpa using hne, hsolid⟩
    exact ⟨hword, _, List.takeWhile_append_dropWhile.symm, stops_dropWhile _ _, rfl⟩

/-- The next word is the first one. -/
theorem words_of_nextWord? {s w rest : Text} (h : nextWord? s = some (w, rest)) :
    words s = w :: words rest := by
  obtain ⟨hw, behind, hs, hbehind, rfl⟩ := nextWord?_eq_some h
  rw [← words_trimStart, hs, words_append hw hbehind, words_trimStart]

/-- Where no word is left there are blanks only. -/
theorem trimStart_of_nextWord? {s : Text} (h : nextWord? s = none) : trimStart s = [] := by
  unfold nextWord? at h
  dsimp only at h
  split at h
  · rename_i hempty
    cases htrim : trimStart s with
    | nil => rfl
    | cons c cs =>
      -- What is trimmed begins with a character that is not blank, and this is in the word.
      have hc : isBlank c = false := by
        have hstops : (trimStart s).Stops isBlank := stops_dropWhile _ _
        rw [htrim] at hstops
        exact stops_cons_iff.mp hstops
      rw [htrim, List.takeWhile_cons_of_pos (by simp [hc])] at hempty
      cases hempty
  · cases h

/-- The first word of a line is the next one that is taken off it. -/
theorem words_eq_cons_iff {s w : Text} {ws : List Text} :
    words s = w :: ws ↔ ∃ rest, nextWord? s = some (w, rest) ∧ words rest = ws := by
  constructor
  · intro h
    cases hnext : nextWord? s with
    | none =>
      rw [← words_trimStart, trimStart_of_nextWord? hnext] at h
      cases h
    | some found =>
      obtain ⟨word, rest⟩ := found
      obtain ⟨rfl, rfl⟩ := List.cons.inj ((words_of_nextWord? hnext).symm.trans h)
      exact ⟨rest, rfl, rfl⟩
  · rintro ⟨rest, hnext, rfl⟩
    exact words_of_nextWord? hnext

/-- At the end of a line there are no words. -/
theorem words_eq_nil_of_endOfLine {s : Text} (h : endOfLine s = .ok ()) : words s = [] := by
  unfold endOfLine at h
  split at h
  · rename_i hblank
    rw [isBlankLine, List.all_eq_true] at hblank
    rw [← words_trimStart, trimStart, List.dropWhile_eq_nil_iff.mpr hblank]
    rfl
  · cases h

/-! ## Keywords -/

/-- A keyword of one word is matched by that word. -/
theorem keyword?_of_nextWord? {line w rest : Text} {keyword : String}
    (h : nextWord? line = some (w, rest)) (hwords : words keyword.toList = [w]) :
    keyword? line keyword = some rest := by
  obtain ⟨-, behind, hline, hbehind, rfl⟩ := nextWord?_eq_some h
  have hafter : after? w (trimStart line) = some behind := after?_eq_some_iff.mpr hline
  have hword : keywordWord? line w = some behind := by
    rw [keywordWord?, hafter]
    cases behind with
    | nil => rfl
    | cons b behind =>
      have hb : isBlank b = true := by simpa using stops_cons_iff.mp hbehind
      simp [endsWord, hb]
  rw [keyword?, rawKeyword?, hwords, keywordWords?, hword]
  rfl

/-- No keyword is matched where the line begins with another character. -/
theorem rawKeyword?_of_ne {k d : Char} {ks cs line keyword : Text} {more : List Text}
    (hline : trimStart line = d :: cs) (hwords : words keyword = (k :: ks) :: more)
    (hne : d ≠ k) : rawKeyword? line keyword = none := by
  rw [rawKeyword?, hwords, keywordWords?, keywordWord?, hline, after?_eq_none_of_ne hne]
  rfl

/-- The letter that a keyword begins with. -/
def firstLetter? (keyword : String) : Option Char :=
  (words keyword.toList).head?.bind List.head?

/-- A line that begins with another letter does not begin with the keyword. -/
theorem keyword?_of_firstLetter? {k d : Char} {cs line : Text} {keyword : String}
    (hline : trimStart line = d :: cs) (hk : k ∈ firstLetter? keyword) (hne : d ≠ k) :
    keyword? line keyword = none := by
  obtain ⟨word, hword, hletter⟩ := Option.bind_eq_some_iff.mp hk
  obtain ⟨more, hmore⟩ := List.head?_eq_some_iff.mp hword
  obtain ⟨ks, rfl⟩ := List.head?_eq_some_iff.mp hletter
  rw [keyword?, rawKeyword?_of_ne hline hmore hne, Option.map_none]

/-! ## Lists -/

/-- Texts as the fields of a list. -/
def Text.commaList (texts : List Text) : Text := List.intercalate ", ".toList texts

/-- A list of one value has no comma. -/
@[simp] theorem commaList_singleton (v : Text) : commaList [v] = v := List.intercalate_singleton

theorem commaList_cons_cons (v v' : Text) (vs : List Text) :
    commaList (v :: v' :: vs) = v ++ ',' :: ' ' :: commaList (v' :: vs) := by
  rw [commaList, List.intercalate_cons_cons, List.append_assoc]
  rfl

/-- Without its separator a text is in one piece. -/
theorem splitAt_of_not_mem {separator : Char} {v : Text} (h : separator ∉ v) :
    splitAt separator v = [v] := by
  induction v with
  | nil => rfl
  | cons c v ih =>
    obtain ⟨hc, hv⟩ := not_or.mp (mt List.mem_cons.mpr h)
    rw [splitAt, if_neg (Ne.symm hc), ih hv]

theorem splitAt_append {separator : Char} {v : Text} (h : separator ∉ v) (s : Text) :
    splitAt separator (v ++ separator :: s) = v :: splitAt separator s := by
  induction v with
  | nil => rw [List.nil_append, splitAt, if_pos rfl]
  | cons c v ih =>
    obtain ⟨hc, hv⟩ := not_or.mp (mt List.mem_cons.mpr h)
    rw [List.cons_append, splitAt, if_neg (Ne.symm hc), ih hv]

/-- A word has no blanks around it. -/
theorem trim_of_isWord {w : Text} (hw : w.IsWord) : trim w = w := by
  have htrim (s : Text) (hs : ∀ c ∈ s, isBlank c = false) : s.dropWhile isBlank = s := by
    apply dropWhile_of_stops
    intro c hc
    exact hs c (List.mem_of_head? hc)
  have hreverse : ∀ c ∈ w.reverse, isBlank c = false := by
    intro c hc
    exact hw.solid c (List.mem_reverse.mp hc)
  rw [trim, trimStart, htrim w hw.solid, trimEnd, htrim w.reverse hreverse, List.reverse_reverse]

/-- A blank before a list belongs to no field. -/
theorem fields_space (s : Text) : fields (' ' :: s) = fields s := by
  have htrim (part : Text) : trim (' ' :: part) = trim part := by
    rw [trim, trim, trimStart, List.dropWhile_cons_of_pos (by decide)]
    rfl
  rw [fields, splitAt, if_neg (by decide)]
  cases hparts : splitAt ',' s with
  | nil =>
    -- A text has at least one part.
    cases s with
    | nil => cases hparts
    | cons c s =>
      rw [splitAt] at hparts
      split at hparts
      · cases hparts
      · split at hparts <;> cases hparts
  | cons part parts => rw [fields, hparts, List.map_cons, List.map_cons, htrim]

/-- The fields of a list are the texts that it was made of. -/
theorem fields_commaList {vs : List Text} (hne : vs ≠ []) (hwords : ∀ v ∈ vs, v.IsWord)
    (hcomma : ∀ v ∈ vs, ',' ∉ v) : fields (commaList vs) = vs := by
  induction vs with
  | nil => exact absurd rfl hne
  | cons v vs ih =>
    have hv : trim v = v := trim_of_isWord (hwords v List.mem_cons_self)
    have hseparate : ',' ∉ v := hcomma v List.mem_cons_self
    cases vs with
    | nil =>
      rw [commaList_singleton, fields, splitAt_of_not_mem hseparate, List.map_singleton, hv]
    | cons v' vs =>
      -- The field behind a comma starts with the blank of the separator.
      have hmore : fields (commaList (v' :: vs)) = v' :: vs := by
        apply ih (List.cons_ne_nil _ _)
        · exact fun u hu => hwords u (List.mem_cons_of_mem _ hu)
        · exact fun u hu => hcomma u (List.mem_cons_of_mem _ hu)
      rw [commaList_cons_cons, fields, splitAt_append hseparate, List.map_cons, hv]
      congr 1
      exact (fields_space _).trans hmore

/-- A list has the characters of its fields, commas and blanks. -/
theorem mem_of_mem_commaList {c : Char} {vs : List Text} (h : c ∈ commaList vs) :
    c ∈ ", ".toList ∨ ∃ v ∈ vs, c ∈ v := by
  induction vs with
  | nil => cases h
  | cons v vs ih =>
    cases vs with
    | nil =>
      rw [commaList_singleton] at h
      exact Or.inr ⟨v, List.mem_cons_self, h⟩
    | cons v' vs =>
      have hcons : commaList (v :: v' :: vs) = v ++ (", ".toList ++ commaList (v' :: vs)) :=
        commaList_cons_cons v v' vs
      rw [hcons, List.mem_append, List.mem_append] at h
      obtain hv | hcomma | hmore := h
      · exact Or.inr ⟨v, List.mem_cons_self, hv⟩
      · exact Or.inl hcomma
      · obtain hcomma | ⟨u, hu, hc⟩ := ih hmore
        · exact Or.inl hcomma
        · exact Or.inr ⟨u, List.mem_cons_of_mem _ hu, hc⟩

theorem splitFirst?_append {separator : Char} {v : Text} (h : separator ∉ v) (s : Text) :
    splitFirst? separator (v ++ separator :: s) = some (v, s) := by
  induction v with
  | nil => rw [List.nil_append, splitFirst?, if_pos rfl]
  | cons c v ih =>
    obtain ⟨hc, hv⟩ := not_or.mp (mt List.mem_cons.mpr h)
    rw [List.cons_append, splitFirst?, if_neg (Ne.symm hc), ih hv]
    rfl

/-! ## Numerals -/

/-- A character that numbers are written with. -/
def isNumeralChar (c : Char) : Bool := c.isAlphanum || c == '+' || c == '-' || c == '.'

/-- A text of characters that numbers are written with. -/
def Text.IsNumeral (s : Text) : Prop := ∀ c ∈ s, isNumeralChar c = true

/-- A text is made of characters of numbers if each of its characters is one. -/
theorem isNumeral_cons_iff {c : Char} {s : Text} :
    Text.IsNumeral (c :: s) ↔ isNumeralChar c = true ∧ s.IsNumeral :=
  List.forall_mem_cons

/-- Letters and digits by the ranges that they are in. -/
theorem isAlphanum_iff {c : Char} : c.isAlphanum = true ↔
    (('A' ≤ c ∧ c ≤ 'Z') ∨ ('a' ≤ c ∧ c ≤ 'z')) ∨ ('0' ≤ c ∧ c ≤ '9') := by
  have hranges : c.isAlphanum = ((decide ('A' ≤ c ∧ c ≤ 'Z') || ('a' ≤ c && c ≤ 'z')) ||
      ('0' ≤ c && c ≤ '9')) := rfl
  simp only [hranges, Bool.or_eq_true, Bool.and_eq_true, decide_eq_true_eq]

/-- Letters and digits are characters of numbers. -/
theorem isNumeralChar_of_isAlphanum {c : Char} (h : c.isAlphanum = true) :
    isNumeralChar c = true := by
  simp [isNumeralChar, h]

theorem isNumeralChar_of_digit? {radix d : Nat} {c : Char} (h : digit? radix c = some d) :
    isNumeralChar c = true := by
  apply isNumeralChar_of_isAlphanum
  rw [isAlphanum_iff]
  unfold digit? at h
  dsimp only at h
  split at h
  · rename_i hdigit
    exact Or.inr hdigit
  · split at h
    · rename_i hlower
      exact Or.inl (Or.inr hlower)
    · split at h
      · rename_i hupper
        exact Or.inl (Or.inl hupper)
      · cases h

/-- Digits that are read are characters of numbers. -/
theorem isNumeral_of_digitsOnto? {radix value n : Nat} {s : Text}
    (h : digitsOnto? radix value s = some n) : s.IsNumeral := by
  induction s generalizing value with
  | nil => exact nofun
  | cons c s ih =>
    obtain ⟨d, hd, hmore⟩ := Option.bind_eq_some_iff.mp h
    exact isNumeral_cons_iff.mpr ⟨isNumeralChar_of_digit? hd, ih hmore⟩

theorem isNumeral_of_digits? {radix n : Nat} {s : Text} (h : digits? radix s = some n) :
    s.IsNumeral := by
  unfold digits? at h
  split at h
  · cases h
  · exact isNumeral_of_digitsOnto? h

theorem isNumeral_of_dropPlus {s : Text} (h : (dropPlus s).IsNumeral) : s.IsNumeral := by
  unfold dropPlus at h
  split at h
  · exact isNumeral_cons_iff.mpr ⟨by decide, h⟩
  · exact h

/-- A number without a minus sign is made of characters of numbers. -/
theorem isNumeral_of_unsigned? {radix bound n : Nat} {s : Text}
    (h : unsigned? radix bound s = some n) : s.IsNumeral := by
  obtain ⟨hdigits, -⟩ := Option.filter_eq_some_iff.mp h
  exact isNumeral_of_dropPlus (isNumeral_of_digits? hdigits)

theorem isNumeral_of_signed? {bits : Nat} {n : Int} {s : Text} (h : signed? bits s = some n) :
    s.IsNumeral := by
  unfold signed? at h
  dsimp only at h
  split at h
  · obtain ⟨m, hm, -⟩ := Option.map_eq_some_iff.mp h
    obtain ⟨k, hk, -⟩ := Option.bind_eq_some_iff.mp hm
    obtain ⟨hdigits, -⟩ := Option.filter_eq_some_iff.mp hk
    exact isNumeral_cons_iff.mpr ⟨by decide, isNumeral_of_digits? hdigits⟩
  · obtain ⟨m, hm, -⟩ := Option.map_eq_some_iff.mp h
    obtain ⟨k, hk, -⟩ := Option.bind_eq_some_iff.mp hm
    exact isNumeral_of_unsigned? hk

theorem isNumeral_of_uint64? {s : Text} {n : UInt64} (h : uint64? s = some n) : s.IsNumeral := by
  obtain ⟨m, hm, -⟩ := Option.map_eq_some_iff.mp h
  exact isNumeral_of_unsigned? hm

theorem isNumeral_of_int64? {s : Text} {n : Int64} (h : int64? s = some n) : s.IsNumeral := by
  obtain ⟨m, hm, -⟩ := Option.map_eq_some_iff.mp h
  exact isNumeral_of_signed? hm

theorem isNumeral_of_uint32Literal? {s : Text} {n : UInt32} (h : uint32Literal? s = some n) :
    s.IsNumeral := by
  unfold uint32Literal? at h
  split at h
  · rename_i hex hhex
    obtain ⟨m, hm, -⟩ := Option.map_eq_some_iff.mp h
    have hnumeral : hex.IsNumeral := isNumeral_of_unsigned? hm
    -- The prefix is a zero and a letter.
    unfold hexDigits? at hhex
    split at hhex
    · cases hhex
      exact isNumeral_cons_iff.mpr
        ⟨by decide, isNumeral_cons_iff.mpr ⟨by decide, hnumeral⟩⟩
    · cases hhex
      exact isNumeral_cons_iff.mpr
        ⟨by decide, isNumeral_cons_iff.mpr ⟨by decide, hnumeral⟩⟩
    · cases hhex
  · obtain ⟨m, hm, -⟩ := Option.map_eq_some_iff.mp h
    exact isNumeral_of_unsigned? hm

theorem isNumeral_of_int32Literal? {s : Text} {n : Int32} (h : int32Literal? s = some n) :
    s.IsNumeral := by
  unfold int32Literal? at h
  split at h
  · rename_i hsigned
    exact isNumeral_of_signed? hsigned
  · obtain ⟨m, hm, -⟩ := Option.map_eq_some_iff.mp h
    exact isNumeral_of_uint32Literal? hm

namespace Floating

theorem isNumeral_of_exponentPart? {s : Text} {n : Int} (h : exponentPart? s = some n) :
    s.IsNumeral := by
  unfold exponentPart? at h
  split at h
  · exact nofun
  · rename_i c cs
    split at h
    · rename_i hletter
      -- The letter, the sign and the digits are all characters of a numeral.
      have hc : isNumeralChar c = true := by
        obtain rfl | rfl := hletter <;> decide
      unfold exponent? at h
      split at h
      · obtain ⟨m, hm, -⟩ := Option.map_eq_some_iff.mp h
        obtain ⟨k, hk, -⟩ := Option.bind_eq_some_iff.mp hm
        exact isNumeral_cons_iff.mpr
          ⟨hc, isNumeral_cons_iff.mpr ⟨by decide, isNumeral_of_digits? hk⟩⟩
      · obtain ⟨m, hm, -⟩ := Option.map_eq_some_iff.mp h
        obtain ⟨k, hk, -⟩ := Option.bind_eq_some_iff.mp hm
        exact isNumeral_cons_iff.mpr ⟨hc, isNumeral_of_dropPlus (isNumeral_of_digits? hk)⟩
    · cases h

/-- A text is a numeral if what follows the digits at its front is one. -/
theorem isNumeral_of_dropWhile {s : Text} (h : Text.IsNumeral (s.dropWhile Char.isDigit)) :
    s.IsNumeral := by
  intro c hc
  rw [← List.takeWhile_append_dropWhile (p := Char.isDigit) (l := s)] at hc
  obtain hc | hc := List.mem_append.mp hc
  · have hdigit : c.isDigit = true := List.mem_takeWhile_imp hc
    have halphanum : c.isAlphanum = (c.isAlpha || c.isDigit) := rfl
    exact isNumeralChar_of_isAlphanum (by rw [halphanum, hdigit, Bool.or_true])
  · exact h c hc

theorem isNumeral_of_decimal? {s : Text} {w : Written} (h : decimal? s = some w) :
    s.IsNumeral := by
  unfold decimal? at h
  dsimp only at h
  obtain ⟨digits, -, h⟩ := Option.bind_eq_some_iff.mp h
  obtain ⟨exponent, hexponent, -⟩ := Option.map_eq_some_iff.mp h
  have htail := isNumeral_of_exponentPart? hexponent
  apply isNumeral_of_dropWhile
  split at htail
  · rename_i cs hpoint
    rw [hpoint]
    exact isNumeral_cons_iff.mpr ⟨by decide, isNumeral_of_dropWhile htail⟩
  · exact htail

/-- The case of a letter does not matter. -/
theorem isNumeralChar_toLower {c : Char} (h : c.toLower.isAlphanum = true) :
    isNumeralChar c = true := by
  apply isNumeralChar_of_isAlphanum
  by_cases hc : c.val ≥ 'A'.val ∧ c.val ≤ 'Z'.val
  · exact isAlphanum_iff.mpr (Or.inl (Or.inl hc))
  · have hsame : c.toLower = c := dif_neg hc
    rwa [hsame] at h

/-- A magnitude is made of characters of numbers. -/
theorem isNumeral_of_written? {s : Text} {w : Written} (h : written? s = some w) :
    s.IsNumeral := by
  -- The names have letters only, and a letter in the other case is still one.
  have hname {name : Text} (hletters : name.all Char.isAlphanum = true)
      (hs : lowerCase s = name) : s.IsNumeral := by
    intro c hc
    apply isNumeralChar_toLower
    apply List.all_eq_true.mp hletters
    rw [← hs]
    exact List.mem_map_of_mem hc
  unfold written? at h
  dsimp only at h
  split at h
  · rename_i heq
    obtain heq | heq := heq
    · exact hname (by decide) heq
    · exact hname (by decide) heq
  · split at h
    · rename_i heq
      exact hname (by decide) heq
    · exact isNumeral_of_decimal? h

theorem Interchange.isNumeral_of_read? (f : Interchange) {s : Text} {bits : Nat}
    (h : f.read? s = some bits) : s.IsNumeral := by
  unfold read? at h
  split at h
  · obtain ⟨w, hw, -⟩ := Option.map_eq_some_iff.mp h
    exact isNumeral_cons_iff.mpr ⟨by decide, isNumeral_of_written? hw⟩
  · obtain ⟨w, hw, -⟩ := Option.map_eq_some_iff.mp h
    exact isNumeral_of_dropPlus (isNumeral_of_written? hw)

end Floating

theorem Single.isNumeral_of_read? {s : Text} {x : Single} (h : Single.read? s = some x) :
    s.IsNumeral := by
  obtain ⟨bits, hbits, -⟩ := Option.map_eq_some_iff.mp h
  exact Floating.Interchange.isNumeral_of_read? _ hbits

theorem Double.isNumeral_of_read? {s : Text} {x : Double} (h : Double.read? s = some x) :
    s.IsNumeral := by
  obtain ⟨bits, hbits, -⟩ := Option.map_eq_some_iff.mp h
  exact Floating.Interchange.isNumeral_of_read? _ hbits

end ShaderConformance
