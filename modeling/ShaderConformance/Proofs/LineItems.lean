import ShaderConformance.Proofs.Results
import ShaderConformance.Proofs.Words

/-!
# Items of a line

The qualifiers of a test line and the items of a shader header are written one after the other.
Each is a keyword, which an expression in parentheses may follow directly.  Blanks stand between
the items, and only behind a closing parenthesis may they be left out.

Which keyword of one word begins a line is seen from the line alone: it is the text up to the
first character that ends words.  So at most one keyword matches, whatever the order in which
keywords are tried.

## Main definitions

- `Text.leadingWord`, `Text.behindWord`: the word that begins a line, and what follows it
- `Text.Spaced`: items with blanks between them
- `Qualified`: the ways to write a keyword with its qualifier

## Main statements

- `rawKeyword?_eq`: a keyword is matched if it is the leading word
- `firstQualified_of_mem`, `tableKeyword?_of_mem`: the leading word decides what is found
- `Qualified.reads`: a written qualifier is read
- `exists_qualified`: what is read as a qualifier is written there
-/

namespace ShaderConformance

open Text

/-! ## The leading word -/

/-- The word that begins a line: what stands before the first character that ends words. -/
def Text.leadingWord (line : Text) : Text := (trimStart line).takeWhile (!endsWord ·)

/-- What follows the leading word. -/
def Text.behindWord (line : Text) : Text := (trimStart line).dropWhile (!endsWord ·)

/-- A keyword of one word, without parentheses. -/
structure Text.IsKeyword (k : Text) : Prop where
  nonempty : k ≠ []
  solid : ∀ c ∈ k, endsWord c = false
  unclosed : ')' ∉ k

instance (k : Text) : Decidable k.IsKeyword :=
  decidable_of_iff (k ≠ [] ∧ k.all (!endsWord ·) = true ∧ ')' ∉ k) <| by
    simp only [List.all_eq_true, Bool.not_eq_true']
    exact ⟨fun ⟨hne, hsolid, hclosed⟩ => ⟨hne, hsolid, hclosed⟩,
      fun h => ⟨h.nonempty, h.solid, h.unclosed⟩⟩

/-- A text that does not go on with a word. -/
abbrev Text.AtBoundary (s : Text) : Prop := s.Stops (!endsWord ·)

section LeadingWord

variable {k line rest : Text}

/-- What ends no word is no blank. -/
theorem isBlank_of_solid {c : Char} (h : endsWord c = false) : isBlank c = false := by
  simp only [endsWord, Bool.or_eq_false_iff] at h
  exact h.1.1

/-- A keyword is a word. -/
theorem Text.IsKeyword.isWord (hk : k.IsKeyword) : k.IsWord where
  nonempty := hk.nonempty
  solid c hc := isBlank_of_solid (hk.solid c hc)

/-- A keyword is its only word. -/
theorem Text.IsKeyword.words_eq (hk : k.IsKeyword) : words k = [k] := by
  have h : words (k ++ []) = k :: words [] := words_append hk.isWord (by simp [Text.Stops])
  rwa [List.append_nil] at h

/-- A keyword begins with no blank. -/
theorem Text.IsKeyword.trimStart_append (hk : k.IsKeyword) (s : Text) :
    trimStart (k ++ s) = k ++ s := by
  obtain ⟨c, cs, rfl⟩ := List.exists_cons_of_ne_nil hk.nonempty
  have hc : isBlank c = false := hk.isWord.solid c List.mem_cons_self
  exact dropWhile_of_stops (stops_cons_iff.mpr hc)

theorem leadingWord_append (hk : k.IsKeyword) (hrest : rest.AtBoundary) :
    leadingWord (k ++ rest) = k ∧ behindWord (k ++ rest) = rest := by
  have hsolid : ∀ c ∈ k, (!endsWord c) = true := by
    intro c hc
    rw [hk.solid c hc]
    rfl
  rw [leadingWord, behindWord, hk.trimStart_append]
  exact ⟨takeWhile_append_of_stops hsolid hrest, dropWhile_append_of_stops hsolid hrest⟩

/-- A line is its leading word and what stands behind it. -/
theorem leadingWord_append_behindWord (line : Text) :
    leadingWord line ++ behindWord line = trimStart line :=
  List.takeWhile_append_dropWhile

/-- Behind the leading word there is a boundary. -/
theorem atBoundary_behindWord (line : Text) : (behindWord line).AtBoundary :=
  stops_dropWhile _ _

/-- Blanks are gone after they were trimmed once. -/
@[simp] theorem trimStart_trimStart (s : Text) : trimStart (trimStart s) = trimStart s :=
  dropWhile_of_stops (stops_dropWhile _ s)

/-- Blanks at the start do not change the leading word. -/
@[simp] theorem leadingWord_trimStart (line : Text) :
    leadingWord (trimStart line) = leadingWord line := by
  rw [leadingWord, trimStart_trimStart, leadingWord]

/-- Nor do they change what stands behind it. -/
@[simp] theorem behindWord_trimStart (line : Text) :
    behindWord (trimStart line) = behindWord line := by
  rw [behindWord, trimStart_trimStart, behindWord]

/-- A character that ends words and is no blank leaves no leading word. -/
theorem leadingWord_of_boundary {c : Char} {s : Text} (hblank : isBlank c = false)
    (hends : endsWord c = true) : leadingWord (c :: s) = [] := by
  have htrim : trimStart (c :: s) = c :: s := dropWhile_of_stops (stops_cons_iff.mpr hblank)
  rw [leadingWord, htrim, List.takeWhile_cons_of_neg (by simp [hends])]

/-- A keyword is matched if it is the leading word. -/
theorem rawKeyword?_eq (hk : k.IsKeyword) (line : Text) :
    rawKeyword? line k = if leadingWord line = k then some (behindWord line) else none := by
  have hmatch (rest : Text) (hrest : rest.AtBoundary) (hline : trimStart line = k ++ rest) :
      leadingWord line = k ∧ behindWord line = rest := by
    rw [← leadingWord_trimStart, ← behindWord_trimStart, hline]
    exact leadingWord_append hk hrest
  rw [rawKeyword?, hk.words_eq, keywordWords?, keywordWord?]
  split
  · -- The line does not begin with the letters of the keyword.
    rename_i hnone
    rw [if_neg, Option.bind_none]
    intro hleading
    have hline := leadingWord_append_behindWord line
    rw [hleading] at hline
    cases hnone.symm.trans (after?_eq_some_iff.mpr hline.symm)
  · rename_i hafter
    obtain ⟨hleading, hbehind⟩ :=
      hmatch [] (by simp [Text.Stops]) (after?_eq_some_iff.mp hafter)
    rw [if_pos hleading, hbehind]
    rfl
  · rename_i c rest hafter
    have hline := after?_eq_some_iff.mp hafter
    by_cases hends : endsWord c = true
    · have hboundary : Text.AtBoundary (c :: rest) := stops_cons_iff.mpr (by simp [hends])
      obtain ⟨hleading, hbehind⟩ := hmatch _ hboundary hline
      rw [if_pos hends, if_pos hleading, hbehind]
      rfl
    · -- The leading word goes on behind the keyword.
      rw [if_neg hends, if_neg, Option.bind_none]
      intro hleading
      have hrest : behindWord line = c :: rest := by
        have hboth := leadingWord_append_behindWord line
        rw [hleading, hline] at hboth
        exact List.append_cancel_left hboth
      have hboundary := atBoundary_behindWord line
      rw [hrest] at hboundary
      have hc := stops_cons_iff.mp hboundary
      simp [hends] at hc

/-- A keyword of one word is matched by the leading word of the line. -/
theorem keyword?_eq {keyword : String} (hk : IsKeyword keyword.toList) (line : Text) :
    keyword? line keyword =
      if leadingWord line = keyword.toList then some (trimStart (behindWord line)) else none := by
  rw [keyword?, rawKeyword?_eq hk]
  split <;> rfl

end LeadingWord

/-! ## Blanks before a line -/

section Trimming

variable (line : Text)

/-- Blanks at the start do not change which word is matched. -/
theorem keywordWord?_trimStart (word : Text) :
    keywordWord? (trimStart line) word = keywordWord? line word := by
  rw [keywordWord?, trimStart_trimStart, keywordWord?]

/-- Whether a keyword is matched does not depend on blanks before it. -/
theorem keyword?_trimStart (keyword : String) :
    keyword? (trimStart line) keyword = keyword? line keyword := by
  rw [keyword?, keyword?, rawKeyword?, rawKeyword?]
  cases words keyword.toList with
  | nil => exact congrArg some (trimStart_trimStart line)
  | cons word more => rw [keywordWords?, keywordWords?, keywordWord?_trimStart]

/-- To trim both sides trims the start. -/
theorem trim_trimStart : trim (trimStart line) = trim line := by
  rw [trim, trimStart_trimStart, trim]

end Trimming

/-! ## Tables of keywords -/

/-- Different keywords, each of one word. -/
structure IsKeywordTable {T : Type} (table : List (String × T)) : Prop where
  keywords : ∀ entry ∈ table, IsKeyword entry.1.toList
  distinct : (table.map Prod.fst).Nodup

instance {T : Type} (table : List (String × T)) : Decidable (IsKeywordTable table) :=
  decidable_of_iff
    ((∀ entry ∈ table, IsKeyword entry.1.toList) ∧ (table.map Prod.fst).Nodup)
    ⟨fun h => ⟨h.1, h.2⟩, fun h => ⟨h.keywords, h.distinct⟩⟩

section Tables

variable {T : Type} {table : List (String × T)} {name : String} {value : T} {line : Text}

/-- A table without its first entry is one. -/
theorem IsKeywordTable.tail {entry : String × T} (h : IsKeywordTable (entry :: table)) :
    IsKeywordTable table where
  keywords e he := h.keywords e (List.mem_cons_of_mem _ he)
  distinct := (List.nodup_cons.mp h.distinct).2

/-- A name stands for one value of a table. -/
theorem IsKeywordTable.eq_of_mem {value' : T} (h : IsKeywordTable table)
    (hmem : (name, value) ∈ table) (hmem' : (name, value') ∈ table) : value = value' := by
  induction table with
  | nil => cases hmem
  | cons entry table ih =>
    have hfresh : name ∈ table.map Prod.fst → entry.1 ≠ name := by
      rintro hname rfl
      exact (List.nodup_cons.mp h.distinct).1 hname
    obtain hfirst | hmore := List.mem_cons.mp hmem
    · obtain hfirst' | hmore' := List.mem_cons.mp hmem'
      · exact (Prod.mk.inj (hfirst.trans hfirst'.symm)).2
      · exact absurd (hfirst ▸ rfl) (hfresh (List.mem_map_of_mem hmore'))
    · obtain hfirst' | hmore' := List.mem_cons.mp hmem'
      · exact absurd (hfirst' ▸ rfl) (hfresh (List.mem_map_of_mem hmore))
      · exact ih h.tail hmore hmore'

/-- If an entry matches, then the longest one does. -/
theorem isSome_longest?_of_mem (hmem : (name, value) ∈ table)
    (hmatch : (keyword? line name).isSome) : (longest? line table).isSome := by
  induction table with
  | nil => cases hmem
  | cons entry table ih =>
    obtain ⟨other, v⟩ := entry
    rw [longest?]
    split
    · -- The first name does not match, so the entry is a later one.
      rename_i hnone
      obtain heq | hmem := List.mem_cons.mp hmem
      · cases heq
        rw [hnone] at hmatch
        cases hmatch
      · exact ih hmem
    · rfl
    · split <;> rfl

/-- The entry of the leading word is found, wherever it stands in the table. -/
theorem tableKeyword?_of_mem (htable : IsKeywordTable table) (hmem : (name, value) ∈ table)
    (hleading : leadingWord line = name.toList) :
    tableKeyword? line table = some (value, trimStart (behindWord line)) := by
  have hmatch : keyword? line name = some (trimStart (behindWord line)) := by
    rw [keyword?_eq (htable.keywords _ hmem), if_pos hleading]
  obtain ⟨⟨other, value', rest⟩, hfound⟩ :=
    Option.isSome_iff_exists.mp (isSome_longest?_of_mem hmem (by rw [hmatch]; rfl))
  obtain ⟨hmem', hmatch'⟩ := longest?_mem hfound
  rw [keyword?_eq (htable.keywords _ hmem')] at hmatch'
  -- What is found is the leading word too, so it is the same name.
  split at hmatch'
  · rename_i hleading'
    obtain rfl : other = name := String.toList_injective (hleading'.symm.trans hleading)
    obtain rfl : value' = value := htable.eq_of_mem hmem' hmem
    rw [tableKeyword?, hfound, ← Option.some.inj hmatch']
    rfl
  · cases hmatch'

end Tables

/-! ## What follows an expression -/

section Tail

variable {rest rest' : Text}

/-- Whether a text stops shows at its first character. -/
theorem Text.Stops.congr {p : Char → Bool} (h : rest.Stops p) (hhead : rest.head? = rest'.head?) :
    rest'.Stops p := by
  unfold Text.Stops at *
  rwa [← hhead]

/-- The first character of a text depends on that of its end at most. -/
theorem head?_append_congr (w : Text) (hhead : rest.head? = rest'.head?) :
    (w ++ rest).head? = (w ++ rest').head? := by
  rw [List.head?_append, List.head?_append, hhead]

/-- A written model is bounded by the character behind it. -/
theorem ShaderModel.Written.congr {m : ShaderModel} {w : Text} (h : m.Written w rest)
    (hhead : rest.head? = rest'.head?) : m.Written w rest' where
  chars := h.chars
  longest := h.longest.congr hhead
  names := h.names

/-- That a tag is whole already makes it the longest one. -/
theorem WholeTag.congr {name : String} (h : WholeTag name rest)
    (hhead : rest.head? = rest'.head?) : WholeTag name rest' where
  known := h.known
  longest _ hother hprefix :=
    length_le_of_stops h.known hother (h.whole.congr hhead) hprefix
  whole := h.whole.congr hhead

/-- How a term is written depends on no more than the character after it. -/
theorem Term.Written.congr {t : Term} {w : Text} (h : t.Written w rest)
    (hhead : rest.head? = rest'.head?) : t.Written w rest' := by
  cases h with
  | atLeast h => exact .atLeast (h.congr hhead)
  | below h hbelow => exact .below (h.congr hhead) hbelow
  | tag h => exact .tag (h.congr hhead)
  | notTag hblanks h => exact .notTag hblanks (h.congr hhead)

/-- A term is bounded by the character behind it. -/
theorem Term.Spaced.congr {t : Term} {w : Text} (h : t.Spaced w rest)
    (hhead : rest.head? = rest'.head?) : t.Spaced w rest' := by
  obtain ⟨before, core, after, rfl, hbefore, hafter, hwritten⟩ := h
  have hwritten' := hwritten.congr (head?_append_congr after hhead)
  exact ⟨before, core, after, rfl, hbefore, hafter, hwritten'⟩

/-- A conjunction is bounded by the character behind it. -/
theorem Conjunction.Written.congr {ts : List Term} {w : Text} (h : Conjunction.Written ts w rest)
    (hhead : rest.head? = rest'.head?) : Conjunction.Written ts w rest' := by
  induction h with
  | last h => exact .last (h.congr hhead)
  | more h _ ih => exact .more (h.congr rfl) (ih hhead)

/-- An expression is bounded by the character behind it. -/
theorem QualifierExpr.Written.congr {e : QualifierExpr} {w : Text} (h : e.Written w rest)
    (hhead : rest.head? = rest'.head?) : e.Written w rest' := by
  induction h with
  | last h => exact .last (h.congr hhead)
  | more h _ ih => exact .more (h.congr rfl) (ih hhead)

/-- An expression ends with its parenthesis, so it is read in front of any other text too. -/
theorem expression_append {s : Text} {e : QualifierExpr}
    (h : expression (s ++ rest) = .ok (e, rest)) (rest' : Text) :
    expression (s ++ rest') = .ok (e, rest') := by
  obtain ⟨w, hs, hwritten⟩ := expression_eq_ok_iff.mp h
  have hclose : s = '(' :: w ++ [')'] := by
    have hs' : s ++ rest = '(' :: w ++ [')'] ++ rest := by
      rw [hs, List.append_assoc]
      rfl
    exact List.append_cancel_right hs'
  apply expression_eq_ok_iff.mpr
  refine ⟨w, ?_, hwritten.congr rfl⟩
  rw [hclose, List.append_assoc]
  rfl

/-- An expression begins with a parenthesis. -/
theorem exists_cons_of_expression {s : Text} {e : QualifierExpr}
    (h : expression (s ++ rest) = .ok (e, rest)) : ∃ inner, s = '(' :: inner := by
  have h' := expression_append h []
  rw [List.append_nil] at h'
  obtain ⟨w, hs, -⟩ := expression_eq_ok_iff.mp h'
  exact ⟨_, hs⟩

end Tail

/-- A qualifier is its expression, evaluated. -/
theorem read_eq_map (c : QualifierContext) {s rest : Text} {e : QualifierExpr}
    (h : expression s = .ok (e, rest)) : Qualifier.read c s = .ok (e.evaluate c, rest) := by
  rw [Qualifier.read, h]
  rfl

/-- Whatever is read as a qualifier is an expression. -/
theorem exists_expression_of_read {c : QualifierContext} {s rest : Text} {q : Qualifier}
    (h : Qualifier.read c s = .ok (q, rest)) :
    ∃ e, expression s = .ok (e, rest) ∧ q = e.evaluate c := by
  obtain ⟨⟨e, rest'⟩, hexpression, hresult⟩ := map_eq_ok_iff.mp h
  obtain ⟨rfl, rfl⟩ := Prod.mk.inj hresult
  exact ⟨e, hexpression, rfl⟩

/-! ## Keywords with qualifiers -/

/-- Reads the qualifier of a keyword from what follows it: an expression if a parenthesis follows
    directly. -/
def qualifierBehind (context : QualifierContext) (behind : Text) :
    Except Fault (Qualifier × Text) :=
  if behind.head? = some '(' then
    (Qualifier.read context behind).map fun (q, rest) => (q, trimStart rest)
  else .ok (.always, trimStart behind)

section Reading

variable {T : Type} {context : QualifierContext} {table : List (String × T)} {keyword : String}
  {value : T} {line : Text}

/-- A keyword is read with the qualifier behind it if it leads the line. -/
theorem qualifiedKeyword_eq_ite (hk : IsKeyword keyword.toList) :
    qualifiedKeyword context line keyword =
      if leadingWord line = keyword.toList then
        (qualifierBehind context (behindWord line)).map some
      else .ok none := by
  rw [qualifiedKeyword, rawKeyword?_eq hk]
  by_cases hleading : leadingWord line = keyword.toList
  · rw [if_pos hleading, if_pos hleading, qualifierBehind]
    dsimp only
    split
    · cases Qualifier.read context (behindWord line) <;> rfl
    · rfl
  · rw [if_neg hleading, if_neg hleading]

/-- The qualifier of the leading word is read, wherever the word stands in the table. -/
theorem firstQualified_of_mem (htable : IsKeywordTable table) (hmem : (keyword, value) ∈ table)
    (hleading : leadingWord line = keyword.toList) :
    firstQualified context line table =
      (qualifierBehind context (behindWord line)).map fun (q, rest) => some (value, q, rest) := by
  induction table with
  | nil => cases hmem
  | cons entry table ih =>
    obtain ⟨other, v⟩ := entry
    rw [firstQualified, qualifiedKeyword_eq_ite (htable.keywords _ List.mem_cons_self)]
    by_cases hother : leadingWord line = other.toList
    · -- The first keyword is the leading word, so it is the one in question.
      obtain rfl : other = keyword := String.toList_injective (hother.symm.trans hleading)
      obtain rfl : v = value := htable.eq_of_mem List.mem_cons_self hmem
      rw [if_pos hother]
      cases qualifierBehind context (behindWord line) <;> rfl
    · have hmore : (keyword, value) ∈ table := by
        refine (List.mem_cons.mp hmem).resolve_left fun heq => hother ?_
        rw [← (Prod.mk.inj heq).1]
        exact hleading
      rw [if_neg hother]
      exact ih htable.tail hmore

/-- A line that begins with no entry of a table has none of them. -/
theorem firstQualified_of_ne (htable : IsKeywordTable table)
    (hne : ∀ entry ∈ table, leadingWord line ≠ entry.1.toList) :
    firstQualified context line table = .ok none := by
  induction table with
  | nil => rfl
  | cons entry table ih =>
    rw [firstQualified, qualifiedKeyword_eq_ite (htable.keywords _ List.mem_cons_self),
      if_neg (hne _ List.mem_cons_self)]
    exact ih htable.tail fun e he => hne e (List.mem_cons_of_mem _ he)

end Reading

/-! ## Items with blanks between them -/

instance (s : Text) : Decidable s.Blanks :=
  decidable_of_iff (s.all isBlank = true) List.all_eq_true

/-- A text that ends with a closing parenthesis. -/
def Text.Closed (w : Text) : Prop := w.getLast? = some ')'

instance (w : Text) : Decidable w.Closed := inferInstanceAs (Decidable (w.getLast? = some ')'))

/-- Blanks between an item and the text behind it.  Behind a parenthesis, and at the end, they may
    be left out. -/
structure Text.Separates (gap w text : Text) : Prop where
  blanks : gap.Blanks
  nonempty : gap = [] → w.Closed ∨ text = []

/-- Items, each written in its own way, one after the other in front of a text. -/
inductive Text.Spaced {T : Type} (Written : T → Text → Prop) : List T → Text → Text → Prop
  | nil (rest : Text) : Spaced Written [] rest rest
  | cons {item : T} {items : List T} {w gap text rest : Text} (hitem : Written item w)
      (hgap : gap.Separates w text) (hmore : Spaced Written items text rest) :
      Spaced Written (item :: items) (w ++ gap ++ text) rest

/-- The ways to write a keyword with its qualifier.  Without an expression it always holds. -/
inductive Qualified (context : QualifierContext) (keyword : Text) : Qualifier → Text → Prop
  | bare : Qualified context keyword .always keyword
  | expression {q : Qualifier} {s : Text} (h : Qualifier.read context s = .ok (q, [])) :
      Qualified context keyword q (keyword ++ s)

section Spacing

variable {context : QualifierContext} {k w gap text behind line rest : Text} {q : Qualifier}

/-- Blanks in front of a text are trimmed. -/
theorem trimStart_append_of_blanks (hblanks : gap.Blanks) (text : Text) :
    trimStart (gap ++ text) = trimStart text :=
  List.dropWhile_append_of_pos hblanks

/-- What separates two items is trimmed. -/
theorem Text.Separates.trimStart (h : gap.Separates w text) :
    Text.trimStart (gap ++ text) = Text.trimStart text :=
  trimStart_append_of_blanks h.blanks text

/-- Unless an item is closed, there is a blank or nothing behind it. -/
theorem Text.Separates.stops {p : Char → Bool} (h : gap.Separates w text) (hopen : ¬ w.Closed)
    (hp : ∀ c, isBlank c = true → p c = false) : (gap ++ text).Stops p := by
  cases gap with
  | nil =>
    obtain rfl := (h.nonempty rfl).resolve_left hopen
    simp [Text.Stops]
  | cons c gap => exact stops_cons_iff.mpr (hp c (h.blanks c List.mem_cons_self))

/-- A keyword alone is not closed by a bracket. -/
theorem Text.IsKeyword.not_closed (hk : k.IsKeyword) : ¬ k.Closed :=
  fun hclosed => hk.unclosed (List.mem_of_getLast? hclosed)

/-- Behind an item that is not closed there is a boundary. -/
theorem Text.Separates.atBoundary (h : gap.Separates w text) (hopen : ¬ w.Closed) :
    (gap ++ text).AtBoundary :=
  h.stops hopen fun c hc => by simp [endsWord, hc]

/-- The blanks behind an item, if another item or nothing follows them. -/
theorem exists_separates (h : w.Closed ∨ behind.AtBoundary)
    (hnext : trimStart behind = [] ∨ leadingWord behind ≠ []) :
    ∃ gap : Text, behind = gap ++ trimStart behind ∧ gap.Separates w (trimStart behind) := by
  obtain ⟨gap, hgap, hbehind, hstops⟩ := exists_blanks_append_trimStart behind
  refine ⟨gap, hbehind, hgap, ?_⟩
  rintro rfl
  refine h.imp_right fun hboundary => hnext.resolve_right ?_
  -- What is not blank and yet ends words begins no word.
  rw [List.nil_append] at hbehind
  rw [← hbehind] at hstops
  cases behind with
  | nil => simp [leadingWord, trimStart]
  | cons c behind =>
    have hends := stops_cons_iff.mp hboundary
    rw [leadingWord_of_boundary (stops_cons_iff.mp hstops) (by simpa using hends)]
    simp

/-- A keyword with an expression takes both off the line. -/
theorem qualifierBehind_expression {s : Text} {e : QualifierExpr}
    (h : expression (s ++ rest) = .ok (e, rest)) (c : QualifierContext) (line : Text)
    (hk : k.IsKeyword) : leadingWord (k ++ s ++ line) = k ∧
      (behindWord (k ++ s ++ line)).head? = some '(' ∧
      qualifierBehind c (behindWord (k ++ s ++ line)) = .ok (e.evaluate c, trimStart line) := by
  obtain ⟨inner, hs⟩ := exists_cons_of_expression h
  have hhead : (s ++ line).head? = some '(' := by
    rw [hs]
    rfl
  have hboundary : Text.AtBoundary (s ++ line) := by
    intro d hd
    obtain rfl := Option.some.inj (hhead.symm.trans hd)
    decide
  obtain ⟨hleading, hbehind⟩ := leadingWord_append hk hboundary
  rw [List.append_assoc, hleading, hbehind, qualifierBehind, if_pos hhead,
    read_eq_map c (expression_append h line)]
  exact ⟨rfl, hhead, rfl⟩

/-- A written qualifier is read, and its keyword is the leading word. -/
theorem Qualified.reads (hk : k.IsKeyword) (h : Qualified context k q w)
    (hgap : gap.Separates w text) : leadingWord (w ++ gap ++ text) = k ∧
      qualifierBehind context (behindWord (w ++ gap ++ text)) = .ok (q, trimStart text) ∧
      (w ≠ k → (behindWord (w ++ gap ++ text)).head? = some '(') := by
  cases h with
  | bare =>
    obtain ⟨hleading, hbehind⟩ := leadingWord_append hk (hgap.atBoundary hk.not_closed)
    -- Nothing that separates a bare keyword from what follows opens a parenthesis.
    have hhead : (gap ++ text).head? ≠ some '(' := by
      intro hhead
      have hstops := hgap.stops (p := (· == '(')) hk.not_closed fun c hc => by
        rw [beq_eq_false_iff_ne]
        rintro rfl
        cases hc
      simpa using hstops '(' hhead
    rw [List.append_assoc, hleading, hbehind, qualifierBehind, if_neg hhead, hgap.trimStart]
    exact ⟨rfl, rfl, fun hne => absurd rfl hne⟩
  | @expression q s hread =>
    obtain ⟨e, hexpression, rfl⟩ := exists_expression_of_read hread
    rw [← List.append_nil s] at hexpression
    obtain ⟨hleading, hhead, hbehind⟩ :=
      qualifierBehind_expression hexpression context (gap ++ text) hk
    rw [List.append_assoc, hleading, hbehind, hgap.trimStart]
    exact ⟨rfl, rfl, fun _ => hhead⟩

/-- What is read as the qualifier of the leading word is written there. -/
theorem exists_qualified (hleading : leadingWord line = k)
    (h : qualifierBehind context (behindWord line) = .ok (q, rest)) :
    ∃ w behind, trimStart line = w ++ behind ∧ rest = trimStart behind ∧
      Qualified context k q w ∧ (w.Closed ∨ behind.AtBoundary) := by
  have hline := leadingWord_append_behindWord line
  rw [hleading] at hline
  unfold qualifierBehind at h
  split at h
  · -- An expression in parentheses, which is read without what follows it too.
    obtain ⟨⟨q', rest'⟩, hread, hresult⟩ := map_eq_ok_iff.mp h
    obtain ⟨rfl, rfl⟩ := Prod.mk.inj hresult
    obtain ⟨e, inner, hbehind, hwritten, hevaluates⟩ := qualifier_read_eq_ok_iff.mp hread
    have hclosed : Qualifier.read context ('(' :: inner ++ [')']) = .ok (q', []) :=
      qualifier_read_eq_ok_iff.mpr ⟨e, inner, rfl, hwritten.congr rfl, hevaluates⟩
    have hend : Text.Closed (k ++ ('(' :: inner ++ [')'])) := by
      rw [Text.Closed, ← List.append_assoc, List.getLast?_concat]
    refine ⟨k ++ ('(' :: inner ++ [')']), rest', ?_, rfl, .expression hclosed, .inl hend⟩
    rw [← hline, hbehind]
    simp
  · obtain ⟨rfl, rfl⟩ := Prod.mk.inj (Except.ok.inj h)
    exact ⟨k, _, hline.symm, rfl, .bare, .inr (atBoundary_behindWord line)⟩

end Spacing

end ShaderConformance
