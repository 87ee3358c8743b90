import Mathlib.Data.List.Forall2
import ShaderConformance.Proofs.LineItems

/-!
# Where the words of a keyword stand

A keyword is matched on a line where its words stand one after the other, with blanks before each of
them, and each of them ends there.  What is left is what stands behind the last word.  So a matched
keyword can be laid out anew, with other blanks before its words and behind them, as long as no
blanks are taken away altogether.

## Main definitions

- `Text.layOut`: words with blanks before them, in front of a text
- `Text.EndsWords`: every word of a layout ends where it ends
- `Text.Keeps`: blanks in the place of others

## Main statements

- `keywordWords?_eq_some_iff`: words are matched where they are laid out
- `keyword?_layOut`: a matched keyword may be laid out with other blanks
- `qualifiedKeyword_layOut`: and so may one with its qualifier
-/

namespace ShaderConformance

open Text

/-! ## Words that are matched -/

/-- The words of a text are words. -/
theorem isWord_of_mem_words {s w : Text} (h : w ∈ words s) : w.IsWord := by
  generalize hws : words s = ws at h
  induction ws generalizing s with
  | nil => cases h
  | cons first more ih =>
    obtain ⟨rest, hnext, hmore⟩ := words_eq_cons_iff.mp hws
    obtain rfl | h := List.mem_cons.mp h
    · exact (nextWord?_eq_some hnext).1
    · exact ih hmore h

/-- A word begins with no blank. -/
theorem Text.IsWord.stops_append {w : Text} (hw : w.IsWord) (s : Text) :
    (w ++ s).Stops isBlank := by
  obtain ⟨c, cs, rfl⟩ := List.exists_cons_of_ne_nil hw.nonempty
  exact stops_cons_iff.mpr (hw.solid c List.mem_cons_self)

/-- A word of a keyword is matched behind blanks and up to a boundary. -/
theorem keywordWord?_eq_some_iff {line word behind : Text} :
    keywordWord? line word = some behind ↔ trimStart line = word ++ behind ∧ behind.AtBoundary := by
  unfold keywordWord?
  constructor
  · intro h
    split at h
    · cases h
    · -- The word stands at the end of the line.
      rename_i hafter
      obtain rfl := Option.some.inj h
      exact ⟨after?_eq_some_iff.mp hafter, by simp [Text.Stops]⟩
    · -- A character follows the word, and it has to end it.
      rename_i c rest hafter
      split at h
      · rename_i hends
        obtain rfl := Option.some.inj h
        exact ⟨after?_eq_some_iff.mp hafter, stops_cons_iff.mpr (by simp [hends])⟩
      · cases h
  · rintro ⟨hline, hboundary⟩
    rw [after?_eq_some_iff.mpr hline]
    cases behind with
    | nil => rfl
    | cons c rest =>
      have hends : endsWord c = true := by simpa using stops_cons_iff.mp hboundary
      simp only [hends, if_true]

/-! ## Layouts -/

/-- Words with blanks before them, in front of a text. -/
def Text.layOut : List (Text × Text) → Text → Text
  | [], rest => rest
  | (gap, word) :: more, rest => gap ++ (word ++ layOut more rest)

/-- Blanks and the words behind them. -/
def IsLayout (parts : List (Text × Text)) : Prop := ∀ part ∈ parts, part.1.Blanks ∧ part.2.IsWord

/-- Every word of a layout ends where it ends: a character that ends words stands behind it, or
    nothing. -/
def Text.EndsWords : List (Text × Text) → Text → Prop
  | [], _ => True
  | _ :: more, rest => (layOut more rest).AtBoundary ∧ EndsWords more rest

section Layouts

variable {parts : List (Text × Text)} {ws : List Text} {line behind rest : Text}

theorem layOut_append (parts : List (Text × Text)) (rest : Text) :
    layOut parts rest = layOut parts [] ++ rest := by
  induction parts with
  | nil => rfl
  | cons part more ih =>
    simp only [layOut, List.append_assoc]
    rw [ih]

/-- What stands behind a matched word is left to the other words. -/
theorem keywordWords?_cons_iff {word : Text} {more : List Text} :
    keywordWords? line (word :: more) = some rest ↔ ∃ behind,
      (trimStart line = word ++ behind ∧ behind.AtBoundary) ∧
        keywordWords? behind more = some rest := by
  simp only [keywordWords?, Option.bind_eq_some_iff, keywordWord?_eq_some_iff]

/-- The words of a layout are matched if all of them end there, and leave what stands behind. -/
theorem keywordWords?_layOut (hparts : IsLayout parts) :
    keywordWords? (layOut parts behind) (parts.map Prod.snd) = some rest ↔
      EndsWords parts behind ∧ behind = rest := by
  induction parts with
  | nil =>
    rw [List.map_nil, keywordWords?, layOut, Option.some.injEq]
    exact (and_iff_right trivial).symm
  | cons part more ih =>
    obtain ⟨gap, word⟩ := part
    obtain ⟨⟨hgap, hword⟩, hmore⟩ := List.forall_mem_cons.mp hparts
    -- The blanks before a word are dropped, the word itself starts with none.
    have htrim : trimStart (layOut ((gap, word) :: more) behind) = word ++ layOut more behind :=
      trimStart_append_of_stops hgap (hword.stops_append _)
    rw [List.map_cons, keywordWords?_cons_iff, htrim, EndsWords, and_assoc, ← ih hmore]
    constructor
    · rintro ⟨left, ⟨hline, hboundary⟩, hleft⟩
      obtain rfl := List.append_cancel_left hline
      exact ⟨hboundary, hleft⟩
    · rintro ⟨hboundary, hleft⟩
      exact ⟨_, ⟨rfl, hboundary⟩, hleft⟩

/-- Words are matched where they are laid out, and leave what stands behind them. -/
theorem keywordWords?_eq_some_iff (hws : ∀ w ∈ ws, w.IsWord) :
    keywordWords? line ws = some rest ↔ ∃ parts, IsLayout parts ∧ parts.map Prod.snd = ws ∧
      line = layOut parts rest ∧ EndsWords parts rest := by
  constructor
  · intro h
    induction ws generalizing line with
    | nil => exact ⟨[], nofun, rfl, Option.some.inj h, trivial⟩
    | cons word more ih =>
      obtain ⟨hword, hmore⟩ := List.forall_mem_cons.mp hws
      obtain ⟨behind, ⟨htrim, hboundary⟩, hrest⟩ := keywordWords?_cons_iff.mp h
      obtain ⟨parts, hparts, rfl, rfl, hends⟩ := ih hmore hrest
      obtain ⟨gap, hgap, hline, -⟩ := exists_blanks_append_trimStart line
      refine ⟨(gap, word) :: parts, List.forall_mem_cons.mpr ⟨⟨hgap, hword⟩, hparts⟩, rfl, ?_,
        hboundary, hends⟩
      rw [hline, htrim]
      rfl
  · rintro ⟨parts, hparts, rfl, rfl, hends⟩
    exact (keywordWords?_layOut hparts).mpr ⟨hends, rfl⟩

/-- A keyword is matched if its words are laid out in the line. -/
theorem rawKeyword?_eq_some_iff {k : Text} : rawKeyword? line k = some rest ↔
    ∃ parts, IsLayout parts ∧ parts.map Prod.snd = words k ∧ line = layOut parts rest ∧
      EndsWords parts rest :=
  keywordWords?_eq_some_iff fun _ => isWord_of_mem_words

end Layouts

/-! ## Other blanks -/

/-- Blanks in the place of others, which are not all taken away.  Longer ones are a case of this. -/
structure Text.Keeps (gap' gap : Text) : Prop where
  blanks : gap'.Blanks
  nonempty : gap' = [] → gap = []

/-- Blanks that are not fewer keep apart what was apart. -/
theorem Text.Keeps.of_length_le {gap gap' : Text} (hblanks : gap'.Blanks)
    (hle : gap.length ≤ gap'.length) : gap'.Keeps gap where
  blanks := hblanks
  nonempty := by
    rintro rfl
    exact List.eq_nil_of_length_eq_zero (Nat.le_zero.mp hle)

/-- The same words, with other blanks before them. -/
def Relaid (parts' parts : List (Text × Text)) : Prop :=
  List.Forall₂ (fun part' part => part'.1.Keeps part.1 ∧ part'.2 = part.2) parts' parts

section Relaid

variable {parts parts' : List (Text × Text)} {gap gap' rest : Text}

/-- A word that ends before some blanks also ends before others. -/
theorem Text.Keeps.atBoundary (h : gap'.Keeps gap) (hboundary : (gap ++ rest).AtBoundary) :
    (gap' ++ rest).AtBoundary := by
  cases gap' with
  | nil =>
    obtain rfl := h.nonempty rfl
    exact hboundary
  | cons c gap' =>
    have hc : isBlank c = true := h.blanks c List.mem_cons_self
    exact stops_cons_iff.mpr (by simp [endsWord, hc])

/-- Words with other blanks between them are still laid out. -/
theorem Relaid.isLayout (h : Relaid parts' parts) (hparts : IsLayout parts) : IsLayout parts' := by
  induction h with
  | nil => exact nofun
  | @cons part' part _ _ hpart _ ih =>
    obtain ⟨⟨-, hword⟩, hmore⟩ := List.forall_mem_cons.mp hparts
    refine List.forall_mem_cons.mpr ⟨⟨hpart.1.blanks, ?_⟩, ih hmore⟩
    rw [hpart.2]
    exact hword

/-- Other blanks leave the words as they are. -/
theorem Relaid.map_snd (h : Relaid parts' parts) : parts'.map Prod.snd = parts.map Prod.snd := by
  induction h with
  | nil => rfl
  | cons hpart _ ih => rw [List.map_cons, List.map_cons, hpart.2, ih]

/-- The words of a layout still end where they end if the blanks between them and behind them are
    replaced. -/
theorem Relaid.endsWords (h : Relaid parts' parts) (hparts : IsLayout parts) (hgap : gap'.Keeps gap)
    (hends : EndsWords parts (gap ++ rest)) : EndsWords parts' (gap' ++ rest) := by
  induction h with
  | nil => trivial
  | @cons part' part more' more _ hmore ih =>
    obtain ⟨hboundary, hends⟩ := hends
    have hlayout := (List.forall_mem_cons.mp hparts).2
    refine ⟨?_, ih hlayout hends⟩
    -- Behind the word there are blanks, or the next word is as before.
    cases hmore with
    | nil => exact hgap.atBoundary hboundary
    | @cons next' next _ _ hnext _ =>
      obtain ⟨gapBefore', word'⟩ := next'
      obtain ⟨gapBefore, word⟩ := next
      obtain ⟨hkeeps, rfl⟩ := hnext
      have hword : word'.IsWord := (hlayout _ List.mem_cons_self).2
      obtain ⟨c, cs, rfl⟩ := List.exists_cons_of_ne_nil hword.nonempty
      refine hkeeps.atBoundary (Text.Stops.congr hboundary ?_)
      exact head?_append_congr gapBefore rfl

end Relaid

section Keywords

variable {parts parts' : List (Text × Text)} {line gap gap' rest : Text} {keyword : String}

/-- A keyword with the blanks behind it is matched where its words are laid out. -/
theorem keyword?_eq_some_iff : keyword? line keyword = some rest ↔
    rest.Stops isBlank ∧ ∃ parts gap, IsLayout parts ∧ parts.map Prod.snd = words keyword.toList ∧
      Text.Blanks gap ∧ line = layOut parts (gap ++ rest) ∧ EndsWords parts (gap ++ rest) := by
  rw [keyword?, Option.map_eq_some_iff]
  constructor
  · rintro ⟨behind, hraw, rfl⟩
    obtain ⟨parts, hparts, hwords, hline, hends⟩ := rawKeyword?_eq_some_iff.mp hraw
    obtain ⟨gap, hgap, hbehind, hstops⟩ := exists_blanks_append_trimStart behind
    rw [hbehind] at hline hends
    exact ⟨hstops, parts, gap, hparts, hwords, hgap, hline, hends⟩
  · rintro ⟨hstops, parts, gap, hparts, hwords, hgap, hline, hends⟩
    exact ⟨gap ++ rest, rawKeyword?_eq_some_iff.mpr ⟨parts, hparts, hwords, hline, hends⟩,
      trimStart_append_of_stops hgap hstops⟩

/-- A matched keyword may be laid out with other blanks before its words and behind them. -/
theorem keyword?_layOut (hparts : IsLayout parts)
    (hwords : parts.map Prod.snd = words keyword.toList) (hrelaid : Relaid parts' parts)
    (hgap : gap'.Keeps gap)
    (h : keyword? (layOut parts (gap ++ rest)) keyword = some rest) :
    keyword? (layOut parts' (gap' ++ rest)) keyword = some rest := by
  obtain ⟨behind, hraw, hrest⟩ := Option.map_eq_some_iff.mp h
  rw [rawKeyword?, ← hwords, keywordWords?_layOut hparts] at hraw
  obtain ⟨hends, rfl⟩ := hraw
  have hstops : rest.Stops isBlank := by
    rw [← hrest]
    exact stops_dropWhile _ _
  exact keyword?_eq_some_iff.mpr ⟨hstops, parts', gap', hrelaid.isLayout hparts,
    hrelaid.map_snd.trans hwords, hgap.blanks, rfl, hrelaid.endsWords hparts hgap hends⟩

end Keywords

/-! ## Keywords with qualifiers -/

section Qualifiers

variable {context : QualifierContext} {parts parts' : List (Text × Text)}
  {s line expr gap gap' behind rest : Text} {keyword : String} {q : Qualifier}

/-- What is read as a qualifier ends with its parenthesis, and is read in front of any text. -/
theorem exists_expression (h : Qualifier.read context s = .ok (q, rest)) :
    ∃ inner, s = '(' :: inner ++ [')'] ++ rest ∧
      ∀ rest', Qualifier.read context ('(' :: inner ++ [')'] ++ rest') = .ok (q, rest') := by
  obtain ⟨e, hexpression, rfl⟩ := exists_expression_of_read h
  obtain ⟨inner, rfl, -⟩ := expression_eq_ok_iff.mp hexpression
  have hs : '(' :: inner ++ ')' :: rest = '(' :: inner ++ [')'] ++ rest := by simp
  rw [hs] at hexpression
  exact ⟨inner, hs, fun rest' => read_eq_map context (expression_append hexpression rest')⟩

/-- An expression is read right behind a keyword, and the blanks behind it are dropped. -/
theorem qualifierBehind_append (h : Qualifier.read context expr = .ok (q, [])) (s : Text) :
    qualifierBehind context (expr ++ s) = .ok (q, trimStart s) := by
  obtain ⟨inner, hexpr, happend⟩ := exists_expression h
  rw [List.append_nil] at hexpr
  rw [hexpr, qualifierBehind, happend]
  rfl

/-- Whether the words of a layout end there depends on no more than the character behind it. -/
theorem Text.EndsWords.congr (h : EndsWords parts behind) (hhead : behind.head? = rest.head?) :
    EndsWords parts rest := by
  induction parts with
  | nil => trivial
  | cons part more ih =>
    refine ⟨h.1.congr ?_, ih h.2⟩
    rw [layOut_append more behind, layOut_append more rest]
    exact head?_append_congr _ hhead

/-- The qualifier of a matched keyword is what stands right behind its words, as far as it goes. -/
theorem qualifiedKeyword_eq_ok_iff : qualifiedKeyword context line keyword = .ok (some (q, rest)) ↔
    ∃ parts behind, IsLayout parts ∧ parts.map Prod.snd = words keyword.toList ∧
      line = layOut parts behind ∧ EndsWords parts behind ∧
        qualifierBehind context behind = .ok (q, rest) := by
  -- What is read behind the keyword depends on the next character alone.
  have hbehind (behind : Text) :
      (if behind.head? = some '(' then (Qualifier.read context behind).map fun found =>
          some (found.1, trimStart found.2) else .ok (some (.always, trimStart behind))) =
        .ok (some (q, rest)) ↔ qualifierBehind context behind = .ok (q, rest) := by
    rw [qualifierBehind]
    split
    · cases Qualifier.read context behind <;> simp [Except.map]
    · simp
  rw [qualifiedKeyword]
  constructor
  · intro h
    split at h
    · cases h
    · rename_i behind hraw
      obtain ⟨parts, hparts, hwords, hline, hends⟩ := rawKeyword?_eq_some_iff.mp hraw
      exact ⟨parts, behind, hparts, hwords, hline, hends, (hbehind behind).mp h⟩
  · rintro ⟨parts, behind, hparts, hwords, hline, hends, h⟩
    rw [rawKeyword?_eq_some_iff.mpr ⟨parts, hparts, hwords, hline, hends⟩]
    exact (hbehind behind).mpr h

/-- What stands behind a keyword as its qualifier: an expression, or nothing. -/
def QualifierText (context : QualifierContext) (expr : Text) (q : Qualifier) : Prop :=
  expr = [] ∧ q = .always ∨ Qualifier.read context expr = .ok (q, [])

/-- What is read behind a keyword is an expression or nothing, with blanks behind it. -/
theorem exists_of_qualifierBehind (h : qualifierBehind context behind = .ok (q, rest)) :
    ∃ expr gap, behind = expr ++ (gap ++ rest) ∧ QualifierText context expr q ∧
      Text.Blanks gap := by
  unfold qualifierBehind at h
  split at h
  · obtain ⟨⟨q', left⟩, hread, hresult⟩ := map_eq_ok_iff.mp h
    obtain ⟨rfl, rfl⟩ := Prod.mk.inj hresult
    obtain ⟨inner, rfl, happend⟩ := exists_expression hread
    obtain ⟨gap, hgap, hleft, -⟩ := exists_blanks_append_trimStart left
    have hexpr := happend []
    rw [List.append_nil] at hexpr
    exact ⟨_, gap, by rw [← hleft], .inr hexpr, hgap⟩
  · obtain ⟨rfl, rfl⟩ := Prod.mk.inj (Except.ok.inj h)
    obtain ⟨gap, hgap, hbehind, -⟩ := exists_blanks_append_trimStart behind
    exact ⟨[], gap, hbehind, .inl ⟨rfl, rfl⟩, hgap⟩

/-- Blanks open no bracket. -/
theorem Text.Blanks.head?_ne (hgap : gap.Blanks) (hne : gap ≠ []) (s : Text) :
    (gap ++ s).head? ≠ some '(' := by
  obtain ⟨c, cs, rfl⟩ := List.exists_cons_of_ne_nil hne
  intro hhead
  obtain rfl : c = '(' := Option.some.inj hhead
  have hblank : isBlank '(' = true := hgap '(' List.mem_cons_self
  cases hblank

/-- The blanks behind a qualifier may be replaced. -/
theorem qualifierBehind_keeps {q' : Qualifier} (hexpr : QualifierText context expr q')
    (hblanks : gap.Blanks) (hgap : gap'.Keeps gap)
    (h : qualifierBehind context (expr ++ (gap ++ rest)) = .ok (q, rest)) :
    qualifierBehind context (expr ++ (gap' ++ rest)) = .ok (q, rest) := by
  have htrim : trimStart rest = rest → trimStart (gap' ++ rest) = rest :=
    (trimStart_append_of_blanks hgap.blanks rest).trans
  obtain ⟨rfl, -⟩ | hread := hexpr
  · rw [List.nil_append, qualifierBehind] at h ⊢
    split at h
    · -- The expression would be read off what is left, which would be shorter than itself.
      rename_i hopen
      have hnil : gap = [] := not_imp_comm.mp (hblanks.head?_ne · rest) (not_not_intro hopen)
      obtain ⟨⟨q', left⟩, hread, hresult⟩ := map_eq_ok_iff.mp h
      have hshorter := length_read hread
      have hle := length_trimStart_le left
      rw [hnil, List.nil_append] at hshorter
      rw [(Prod.mk.inj hresult).2] at hle
      omega
    · rename_i hopen
      obtain ⟨rfl, hrest⟩ := Prod.mk.inj (Except.ok.inj h)
      rw [trimStart_append_of_blanks hblanks] at hrest
      have hopen' : (gap' ++ rest).head? ≠ some '(' := by
        by_cases hnil : gap' = []
        · rw [hgap.nonempty hnil] at hopen
          rwa [hnil]
        · exact hgap.blanks.head?_ne hnil rest
      rw [if_neg hopen', htrim hrest]
  · rw [qualifierBehind_append hread] at h ⊢
    obtain ⟨rfl, hrest⟩ := Prod.mk.inj (Except.ok.inj h)
    rw [trimStart_append_of_blanks hblanks] at hrest
    rw [htrim hrest]

/-- A matched keyword with its qualifier may be laid out with other blanks before the words of the
    keyword and behind the qualifier. -/
theorem qualifiedKeyword_layOut {q' : Qualifier} (hparts : IsLayout parts)
    (hwords : parts.map Prod.snd = words keyword.toList) (hrelaid : Relaid parts' parts)
    (hexpr : QualifierText context expr q') (hblanks : gap.Blanks) (hgap : gap'.Keeps gap)
    (h : qualifiedKeyword context (layOut parts (expr ++ (gap ++ rest))) keyword =
      .ok (some (q, rest))) :
    qualifiedKeyword context (layOut parts' (expr ++ (gap' ++ rest))) keyword =
      .ok (some (q, rest)) := by
  obtain ⟨parts₀, behind, hparts₀, hwords₀, hline, hends₀, hbehind⟩ :=
    qualifiedKeyword_eq_ok_iff.mp h
  -- The layout in question is the one that is read.
  have hraw := (keywordWords?_layOut hparts₀).mpr ⟨hends₀, rfl⟩
  rw [← hline, hwords₀, ← hwords] at hraw
  obtain ⟨hends, rfl⟩ := (keywordWords?_layOut hparts).mp hraw
  have hends' : EndsWords parts' (expr ++ (gap' ++ rest)) := by
    obtain ⟨rfl, -⟩ | hread := hexpr
    · rw [List.nil_append] at hends ⊢
      exact hrelaid.endsWords hparts hgap hends
    · -- The words end before the parenthesis of the expression.
      obtain ⟨inner, hinner, -⟩ := exists_expression hread
      rw [List.append_nil] at hinner
      have hnothing : Text.Keeps [] [] := ⟨nofun, id⟩
      have hends' : EndsWords parts' ([] ++ (expr ++ (gap ++ rest))) :=
        hrelaid.endsWords hparts hnothing hends
      rw [hinner] at hends' ⊢
      exact hends'.congr rfl
  exact qualifiedKeyword_eq_ok_iff.mpr ⟨parts', _, hrelaid.isLayout hparts,
    hrelaid.map_snd.trans hwords, rfl, hends', qualifierBehind_keeps hexpr hblanks hgap hbehind⟩

end Qualifiers

end ShaderConformance
