import ShaderConformance.Proofs.NameTables

/-!
# The width of blanks

Blanks stand between words, and it does not matter how many of them.  If a run of blanks on a line
is replaced by another one, a reader of keywords or of words finds the same, and what it leaves is
the same but for the run, which is in what is left or is not.

## Main definitions

- `Text.IsRun`: one blank or more
- `Text.SameBut`: two texts are the same, or the same but for a run
- `IgnoresRuns`: a reader for which the width of blanks does not matter

## Main statements

- `keyword?_sameBut`, `tableKeyword?_sameBut`, `nextWord?_sameBut`: the readers find the same
- `ignoresRuns_of_sameBut`: so what they find depends on no run before what is left
- `qualifiedKeyword_run`: nor does a qualifier depend on a run before what its keyword leaves
-/

namespace ShaderConformance

open Text

/-- A run of blanks. -/
structure Text.IsRun (b : Text) : Prop where
  nonempty : b ≠ []
  blanks : b.Blanks

/-- Two texts that are the same, or the same but for a run in front of a text. -/
inductive Text.SameBut (b b' c : Text) : Text → Text → Prop
  | same (s : Text) : SameBut b b' c s s
  | run (a : Text) : SameBut b b' c (a ++ (b ++ c)) (a ++ (b' ++ c))

section Runs

variable {b b' c s s' w line line' : Text}

/-- A run stops every class of characters that has no blanks. -/
theorem Text.IsRun.stops {p : Char → Bool} (hb : b.IsRun) (hp : ∀ c, isBlank c = true → p c = false)
    (c : Text) : (b ++ c).Stops p := by
  obtain ⟨d, ds, rfl⟩ := List.exists_cons_of_ne_nil hb.nonempty
  exact stops_cons_iff.mpr (hp d (hb.blanks d List.mem_cons_self))

/-- Where a class of characters stops, what is before it decides how long the class goes on. -/
theorem takeWhile_append_stops {p : Char → Bool} (a : Text) (h : s.Stops p) :
    (a ++ s).takeWhile p = a.takeWhile p := by
  induction a with
  | nil => exact takeWhile_of_stops h
  | cons d a ih => rw [List.cons_append, List.takeWhile_cons, List.takeWhile_cons, ih]

/-- Dropping ends where the second text begins, if it begins with what is kept. -/
theorem dropWhile_append_stops {p : Char → Bool} (a : Text) (h : s.Stops p) :
    (a ++ s).dropWhile p = a.dropWhile p ++ s := by
  induction a with
  | nil => exact dropWhile_of_stops h
  | cons d a ih =>
    rw [List.cons_append, List.dropWhile_cons, List.dropWhile_cons]
    split
    · exact ih
    · rfl

/-- Blanks in front of a text are dropped, and with them a run among them. -/
theorem trimStart_sameBut (hb : b.IsRun) (hb' : b'.IsRun) (h : SameBut b b' c s s') :
    SameBut b b' c (trimStart s) (trimStart s') := by
  cases h with
  | same s => exact .same _
  | run a =>
    induction a with
    | nil =>
      rw [List.nil_append, List.nil_append, trimStart_append_of_blanks hb.blanks,
        trimStart_append_of_blanks hb'.blanks]
      exact .same _
    | cons d a ih =>
      simp only [trimStart, List.cons_append, List.dropWhile_cons] at ih ⊢
      split
      · exact ih
      · exact .run (d :: a)

theorem Text.SameBut.symm (h : SameBut b b' c s s') : SameBut b' b c s' s := by
  cases h with
  | same s => exact .same s
  | run a => exact .run a

/-- A word has no blanks, so it ends before the run or does not reach it. -/
theorem after?_sameBut {rest : Text} (hb : b.IsRun) (hw : ∀ d ∈ w, isBlank d = false)
    (h : SameBut b b' c s s') (hafter : after? w s = some rest) :
    ∃ rest', after? w s' = some rest' ∧ SameBut b b' c rest rest' := by
  cases h with
  | same s => exact ⟨rest, hafter, .same rest⟩
  | run a =>
    have hline : a ++ (b ++ c) = w ++ rest := after?_eq_some_iff.mp hafter
    obtain ⟨more, rfl, hrest⟩ | ⟨more, rfl, hbehind⟩ := List.append_eq_append_iff.mp hline
    · -- The word would go on into the run.
      cases more with
      | nil =>
        rw [List.nil_append] at hrest
        rw [List.append_nil, ← hrest]
        exact ⟨b' ++ c, after?_eq_some_iff.mpr rfl, .run []⟩
      | cons d more =>
        obtain ⟨e, es, rfl⟩ := List.exists_cons_of_ne_nil hb.nonempty
        obtain ⟨rfl, -⟩ := List.cons.inj hrest
        have hd : isBlank e = false := hw e (by simp)
        rw [hb.blanks e List.mem_cons_self] at hd
        cases hd
    · rw [hbehind, List.append_assoc]
      exact ⟨more ++ (b' ++ c), after?_eq_some_iff.mpr rfl, .run more⟩

/-- A word ends before a run of any width. -/
theorem atBoundary_sameBut (hb' : b'.IsRun) (h : SameBut b b' c s s') (hboundary : s.AtBoundary) :
    s'.AtBoundary := by
  cases h with
  | same s => exact hboundary
  | run a =>
    cases a with
    | nil => exact hb'.stops (fun d hd => by simp [endsWord, hd]) c
    | cons d a => exact hboundary

end Runs

/-! ## Keywords -/

section Keywords

variable {b b' c line line' rest : Text} {ws : List Text} {keyword : String}
  (hb : b.IsRun) (hb' : b'.IsRun) (h : SameBut b b' c line line')

include hb hb' h

/-- Words are matched whatever the width of the blanks.  By induction on the words, each of which
    leaves lines that are still the same but for the run. -/
theorem keywordWords?_sameBut (hws : ∀ w ∈ ws, w.IsWord)
    (hmatch : keywordWords? line ws = some rest) :
    ∃ rest', keywordWords? line' ws = some rest' ∧ SameBut b b' c rest rest' := by
  induction ws generalizing line line' with
  | nil =>
    obtain rfl := Option.some.inj hmatch
    exact ⟨line', rfl, h⟩
  | cons w ws ih =>
    obtain ⟨hw, hmore⟩ := List.forall_mem_cons.mp hws
    obtain ⟨behind, ⟨hline, hboundary⟩, hrest⟩ := keywordWords?_cons_iff.mp hmatch
    obtain ⟨behind', hafter, hsame⟩ := after?_sameBut hb hw.solid (trimStart_sameBut hb hb' h)
      (after?_eq_some_iff.mpr hline)
    obtain ⟨rest', hrest', hresult⟩ := ih hsame hmore hrest
    have hfirst := And.intro (after?_eq_some_iff.mp hafter) (atBoundary_sameBut hb' hsame hboundary)
    exact ⟨rest', keywordWords?_cons_iff.mpr ⟨behind', hfirst, hrest'⟩, hresult⟩

/-- A keyword is found in both lines or in none. -/
theorem rawKeyword?_sameBut {k : Text} (hmatch : rawKeyword? line k = some rest) :
    ∃ rest', rawKeyword? line' k = some rest' ∧ SameBut b b' c rest rest' :=
  keywordWords?_sameBut hb hb' h (fun _ => isWord_of_mem_words) hmatch

/-- Past its rest, a keyword does not see the width of blanks. -/
theorem keyword?_sameBut (hmatch : keyword? line keyword = some rest) :
    ∃ rest', keyword? line' keyword = some rest' ∧ SameBut b b' c rest rest' := by
  obtain ⟨behind, hraw, rfl⟩ := Option.map_eq_some_iff.mp hmatch
  obtain ⟨behind', hraw', hsame⟩ := rawKeyword?_sameBut hb hb' h hraw
  exact ⟨trimStart behind', Option.map_eq_some_iff.mpr ⟨behind', hraw', rfl⟩,
    trimStart_sameBut hb hb' hsame⟩

/-- A keyword is missing from both lines or from none. -/
theorem keyword?_eq_none_iff_sameBut :
    keyword? line keyword = none ↔ keyword? line' keyword = none := by
  rw [Option.eq_none_iff_forall_ne_some, Option.eq_none_iff_forall_ne_some]
  constructor
  · intro hnone rest' hmatch
    obtain ⟨rest, hmatch, -⟩ := keyword?_sameBut hb' hb h.symm hmatch
    exact hnone rest hmatch
  · intro hnone rest hmatch
    obtain ⟨rest', hmatch, -⟩ := keyword?_sameBut hb hb' h hmatch
    exact hnone rest' hmatch

/-- The same names match, so the longest one is the same. -/
theorem longest?_sameBut {T : Type} {table : List (String × T)} {name : String} {value : T}
    (hfound : longest? line table = some (name, value, rest)) :
    ∃ rest', longest? line' table = some (name, value, rest') ∧ SameBut b b' c rest rest' := by
  -- Where no entry matches, none matches the other line either.
  have hnone (table : List (String × T)) (hlater : longest? line table = none) :
      longest? line' table = none := by
    rw [← Option.not_isSome_iff_eq_none, longest?_isSome_iff] at hlater ⊢
    rintro ⟨entry, hmem, hmatch⟩
    refine hlater ⟨entry, hmem, ?_⟩
    rw [← Option.ne_none_iff_isSome] at hmatch ⊢
    exact mt (keyword?_eq_none_iff_sameBut hb hb' h).mp hmatch
  induction table generalizing name value rest with
  | nil => cases hfound
  | cons first table ih =>
    obtain ⟨other, v⟩ := first
    simp only [longest?] at hfound ⊢
    split at hfound
    · rename_i hfirst
      rw [(keyword?_eq_none_iff_sameBut hb hb' h).mp hfirst]
      exact ih hfound
    · -- Only the first entry matches.
      rename_i hfirst hlater
      obtain ⟨left, hfirst', hsame⟩ := keyword?_sameBut hb hb' h hfirst
      obtain ⟨rfl, rfl, rfl⟩ : other = name ∧ v = value ∧ _ = rest := by simpa using hfound
      rw [hfirst', hnone table hlater]
      exact ⟨left, rfl, hsame⟩
    · rename_i hfirst hlater
      obtain ⟨left, hfirst', hsame⟩ := keyword?_sameBut hb hb' h hfirst
      -- It matches as well as a later one, and their lengths decide alike.
      obtain ⟨left', hlater', hsame'⟩ := ih hlater
      rw [hfirst', hlater']
      dsimp only
      split at hfound
      · rename_i hlt
        obtain ⟨rfl, rfl, rfl⟩ : other = name ∧ v = value ∧ _ = rest := by simpa using hfound
        rw [if_pos hlt]
        exact ⟨left, rfl, hsame⟩
      · rename_i hnot
        obtain ⟨rfl, rfl⟩ := Prod.mk.inj (Option.some.inj hfound)
        rw [if_neg hnot]
        exact ⟨left', rfl, hsame'⟩

/-- The longest entry of a table is the same for both lines. -/
theorem tableKeyword?_sameBut {T : Type} {table : List (String × T)} {value : T}
    (hfound : tableKeyword? line table = some (value, rest)) :
    ∃ rest', tableKeyword? line' table = some (value, rest') ∧ SameBut b b' c rest rest' := by
  obtain ⟨⟨name, _, _⟩, hlongest, hresult⟩ := Option.map_eq_some_iff.mp hfound
  obtain ⟨rfl, rfl⟩ := Prod.mk.inj hresult
  obtain ⟨rest', hlongest', hsame⟩ := longest?_sameBut hb hb' h hlongest
  exact ⟨rest', Option.map_eq_some_iff.mpr ⟨_, hlongest', rfl⟩, hsame⟩

/-- The next word ends before the run, or the run stands in front of it. -/
theorem nextWord?_sameBut {word : Text} (hnext : nextWord? line = some (word, rest)) :
    ∃ rest', nextWord? line' = some (word, rest') ∧ SameBut b b' c rest rest' := by
  have htrim := trimStart_sameBut hb hb' h
  unfold nextWord? at hnext ⊢
  dsimp only at hnext ⊢
  generalize trimStart line = s at hnext htrim
  generalize trimStart line' = s' at htrim ⊢
  split at hnext
  · cases hnext
  · rename_i hne
    obtain ⟨rfl, rfl⟩ := Prod.mk.inj (Option.some.inj hnext)
    cases htrim with
    | same s =>
      rw [if_neg hne]
      exact ⟨_, rfl, .same _⟩
    | run a =>
      -- A word ends at the first blank, however many follow.
      have hstops {b : Text} (hb : b.IsRun) : (b ++ c).Stops (!isBlank ·) :=
        hb.stops (fun d hd => by simp [hd]) c
      rw [takeWhile_append_stops a (hstops hb)] at hne ⊢
      rw [takeWhile_append_stops a (hstops hb'), dropWhile_append_stops a (hstops hb),
        dropWhile_append_stops a (hstops hb'), if_neg hne]
      exact ⟨_, rfl, trimStart_sameBut hb hb' (.run _)⟩

end Keywords

/-! ## Readers -/

/-- A reader for which the width of blanks does not matter: it finds something with any of them, and
    it finds the same if they are not in what it leaves. -/
def IgnoresRuns {R : Type} (read? : Text → Option R) (left : R → Text) : Prop :=
  ∀ a b b' c : Text, b.IsRun → b'.IsRun →
    ((read? (a ++ (b ++ c))).isSome ↔ (read? (a ++ (b' ++ c))).isSome) ∧
    ∀ before found, c = before ++ left found →
      (read? (a ++ (b ++ c)) = some found ↔ read? (a ++ (b' ++ c)) = some found)

section Readers

variable {R : Type} {read? : Text → Option R} {left : R → Text}

/-- What is left behind a run is not changed with the run. -/
theorem Text.SameBut.eq_of_suffix {b b' before rest rest' : Text} (hb : b.IsRun)
    (h : SameBut b b' (before ++ rest) rest rest') : rest' = rest := by
  generalize hc : before ++ rest = c at h
  cases h with
  | same => rfl
  | run a =>
    -- What is left would be longer than itself.
    have hlength := congrArg List.length hc
    have hpos : 0 < b.length := List.length_pos_iff.mpr hb.nonempty
    simp only [List.length_append] at hlength
    omega

/-- A reader that takes related lines to related rests ignores the width of blanks. -/
theorem ignoresRuns_of_sameBut
    (h : ∀ {b b' c line line' found}, IsRun b → IsRun b' → SameBut b b' c line line' →
      read? line = some found → ∃ found', read? line' = some found' ∧
        SameBut b b' c (left found) (left found') ∧ (left found' = left found → found' = found)) :
    IgnoresRuns read? left := by
  intro a b b' c hb hb'
  have hsome {b b' : Text} (hb : b.IsRun) (hb' : b'.IsRun)
      (hread : (read? (a ++ (b ++ c))).isSome) : (read? (a ++ (b' ++ c))).isSome := by
    obtain ⟨found, hfound⟩ := Option.isSome_iff_exists.mp hread
    obtain ⟨found', hfound', -⟩ := h hb hb' (.run a) hfound
    exact Option.isSome_iff_exists.mpr ⟨found', hfound'⟩
  refine ⟨⟨hsome hb hb', hsome hb' hb⟩, ?_⟩
  rintro before found rfl
  have hsame {b b' : Text} (hb : b.IsRun) (hb' : b'.IsRun)
      (hread : read? (a ++ (b ++ (before ++ left found))) = some found) :
      read? (a ++ (b' ++ (before ++ left found))) = some found := by
    obtain ⟨found', hfound', hleft, heq⟩ := h hb hb' (.run a) hread
    rw [hfound', heq (hleft.eq_of_suffix hb)]
  exact ⟨hsame hb hb', hsame hb' hb⟩

end Readers

/-- A keyword ignores the width of blanks. -/
theorem ignoresRuns_keyword? (keyword : String) : IgnoresRuns (keyword? · keyword) id :=
  ignoresRuns_of_sameBut fun hb hb' h hfound => by
    obtain ⟨rest', hrest', hsame⟩ := keyword?_sameBut hb hb' h hfound
    exact ⟨rest', hrest', hsame, id⟩

/-- A table of keywords ignores the width of blanks. -/
theorem ignoresRuns_tableKeyword? {T : Type} (table : List (String × T)) :
    IgnoresRuns (tableKeyword? · table) Prod.snd :=
  ignoresRuns_of_sameBut fun hb hb' h hfound => by
    obtain ⟨rest', hrest', hsame⟩ := tableKeyword?_sameBut hb hb' h hfound
    exact ⟨_, hrest', hsame, fun heq => Prod.ext rfl heq⟩

/-- The next word ignores the width of blanks. -/
theorem ignoresRuns_nextWord? : IgnoresRuns nextWord? Prod.snd :=
  ignoresRuns_of_sameBut fun hb hb' h hfound => by
    obtain ⟨rest', hrest', hsame⟩ := nextWord?_sameBut hb hb' h hfound
    exact ⟨_, hrest', hsame, fun heq => Prod.ext rfl heq⟩

/-! ## Qualifiers -/

section Qualifiers

variable {context : QualifierContext} {keyword : String} {a b b' c behind rest : Text}

/-- A keyword that is followed by blanks has no expression. -/
theorem qualifiedKeyword_of_blank {line : Text} (hb : b.IsRun)
    (hraw : rawKeyword? line keyword.toList = some (b ++ behind)) :
    qualifiedKeyword context line keyword = .ok (some (.always, trimStart behind)) := by
  have hhead : (b ++ behind).head? ≠ some '(' := by
    intro hhead
    have hstops : (b ++ behind).Stops (· == '(') := by
      refine hb.stops (fun d hd => ?_) behind
      rw [beq_eq_false_iff_ne]
      rintro rfl
      cases hd
    simpa using hstops '(' hhead
  rw [qualifiedKeyword, hraw]
  dsimp only
  rw [if_neg hhead, trimStart_append_of_blanks hb.blanks]

/-- Without its keyword there is no qualifier to read. -/
theorem qualifiedKeyword_of_none {line : Text} (h : keyword? line keyword = none) :
    qualifiedKeyword context line keyword = .ok none := by
  rw [keyword?, Option.map_eq_none_iff] at h
  rw [qualifiedKeyword, h]

/-- A run before what the keyword alone leaves stands before the keyword, between its words or right
    behind it.  Its width does not matter to a qualifier, whether or not the qualifier is well
    formed. -/
theorem qualifiedKeyword_run (hb : b.IsRun) (hb' : b'.IsRun)
    (h : keyword? (a ++ (b ++ (c ++ rest))) keyword = none ∨
      keyword? (a ++ (b ++ (c ++ rest))) keyword = some rest) :
    qualifiedKeyword context (a ++ (b ++ (c ++ rest))) keyword =
      qualifiedKeyword context (a ++ (b' ++ (c ++ rest))) keyword := by
  obtain hnone | hmatch := h
  · have hnone' := (keyword?_eq_none_iff_sameBut hb hb' (.run a)).mp hnone
    rw [qualifiedKeyword_of_none hnone, qualifiedKeyword_of_none hnone']
  · obtain ⟨behind, hraw, hrest⟩ := Option.map_eq_some_iff.mp hmatch
    obtain ⟨behind', hraw', hsame⟩ := rawKeyword?_sameBut hb hb' (.run a) hraw
    cases hsame with
    | same => rw [qualifiedKeyword, hraw, qualifiedKeyword, hraw']
    | run before =>
      -- The run is behind the keyword, with nothing but blanks up to the rest.
      obtain ⟨gap, hgap, hbehind, -⟩ :=
        exists_blanks_append_trimStart (before ++ (b ++ (c ++ rest)))
      have hgap : Text.Blanks (before ++ (b ++ c)) := by
        have heq : before ++ (b ++ c) ++ rest = gap ++ rest := by
          rw [hrest] at hbehind
          simpa using hbehind
        rwa [List.append_cancel_right heq]
      have hbefore : before.Blanks := fun d hd => hgap d (List.mem_append_left _ hd)
      have hc : c.Blanks := fun d hd => hgap d (by simp [hd])
      have hrun {b : Text} (hb : b.IsRun) : Text.IsRun (before ++ b) :=
        ⟨List.append_ne_nil_of_right_ne_nil before hb.nonempty,
          fun d hd => (List.mem_append.mp hd).elim (hbefore d) (hb.blanks d)⟩
      rw [← List.append_assoc before] at hraw hraw'
      rw [qualifiedKeyword_of_blank (hrun hb) hraw, qualifiedKeyword_of_blank (hrun hb') hraw']

end Qualifiers

end ShaderConformance
