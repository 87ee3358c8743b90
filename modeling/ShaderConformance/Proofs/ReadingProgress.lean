import ShaderConformance.Proofs.BlankRuns
import ShaderConformance.Proofs.QualifierUse
import ShaderConformance.Requirements

/-!
# Reading makes progress

Readers take something off the front of a line and hand on what is left.  What they hand on is a
shorter end of the line, so a loop over a line cannot go on for more rounds than the line has
characters, whether or not the line is well formed.

## Main definitions

- `Text.TakesOff`: what is taken off a text, and what is left
- `runRounds`: a loop with a limit on its rounds
- `Advances`, `LoopsEnd`, `IgnoresWidths`: readers take off what they match, loops end, and the
  width of blanks does not matter

## Main statements

- `runRounds_eq_some`: a loop that shortens its text ends within the length of the text
- `reading_advances`: all readers advance, and all loops end
-/

namespace ShaderConformance

open Text

/-! ## What is taken off -/

/-- A part of a kind is taken off the front of a text, and it is not empty. -/
structure Text.TakesOff (IsPart : Text → Prop) (line rest : Text) : Prop where
  split : ∃ part, line = part ++ rest ∧ IsPart part
  shorter : rest.length < line.length

/-- A part of a kind with blanks behind it. -/
def Text.Trailed (IsPart : Text → Prop) (text : Text) : Prop :=
  ∃ part gap, text = part ++ gap ∧ IsPart part ∧ Text.Blanks gap

/-- Words with blanks before each of them. -/
def Text.IsLaidOut (ws : List Text) (part : Text) : Prop :=
  ∃ parts, IsLayout parts ∧ parts.map Prod.snd = ws ∧ part = layOut parts []

/-- A keyword, with blanks before each of its words, and its qualifier. -/
def Text.IsQualified (context : QualifierContext) (keyword : String) (q : Qualifier)
    (part : Text) : Prop :=
  ∃ front expr, part = front ++ expr ∧ IsLaidOut (words keyword.toList) front ∧
    QualifierText context expr q

section TakesOff

variable {IsPart : Text → Prop} {context : QualifierContext} {line rest : Text} {keyword : String}
  {q : Qualifier}

/-- A keyword with words has characters. -/
theorem length_pos_of_words (h : words keyword.toList ≠ []) :
    0 < (words keyword.toList).flatten.length := by
  obtain ⟨w, ws, hws⟩ := List.exists_cons_of_ne_nil h
  have hw : w.IsWord := isWord_of_mem_words (by rw [hws]; exact List.mem_cons_self)
  have hpos : 0 < w.length := List.length_pos_iff.mpr hw.nonempty
  rw [hws, List.flatten_cons, List.length_append]
  omega

/-- A keyword takes its words off, with the blanks around them. -/
theorem takesOff_keyword? (hne : words keyword.toList ≠ [])
    (h : keyword? line keyword = some rest) :
    TakesOff (Trailed (IsLaidOut (words keyword.toList))) line rest ∧ rest.Stops isBlank := by
  obtain ⟨hstops, parts, gap, hparts, hwords, hgap, hline, -⟩ := keyword?_eq_some_iff.mp h
  refine ⟨⟨⟨layOut parts [] ++ gap, ?_, _, gap, rfl, ⟨parts, hparts, hwords, rfl⟩, hgap⟩,
    length_keyword? h (length_pos_of_words hne)⟩, hstops⟩
  rw [hline, layOut_append, List.append_assoc]

/-- A keyword with a qualifier takes both off. -/
theorem takesOff_qualifiedKeyword (hne : words keyword.toList ≠ [])
    (h : qualifiedKeyword context line keyword = .ok (some (q, rest))) :
    TakesOff (Trailed (IsQualified context keyword q)) line rest := by
  obtain ⟨parts, behind, hparts, hwords, hline, -, hbehind⟩ := qualifiedKeyword_eq_ok_iff.mp h
  obtain ⟨expr, gap, rfl, hexpr, hgap⟩ := exists_of_qualifierBehind hbehind
  refine ⟨⟨layOut parts [] ++ expr ++ gap, ?_, _, gap, rfl,
    ⟨_, expr, rfl, ⟨parts, hparts, hwords, rfl⟩, hexpr⟩, hgap⟩,
    length_qualifiedKeyword h (length_pos_of_words hne)⟩
  rw [hline, layOut_append, List.append_assoc, List.append_assoc]

/-- An entry of a table takes its words off. -/
theorem takesOff_tableKeyword? {T : Type} {table : List (String × T)} {value : T}
    (hne : ∀ entry ∈ table, words entry.1.toList ≠ [])
    (h : tableKeyword? line table = some (value, rest)) : ∃ name, (name, value) ∈ table ∧
      TakesOff (Trailed (IsLaidOut (words name.toList))) line rest ∧ rest.Stops isBlank := by
  obtain ⟨⟨name, _, _⟩, hlongest, hresult⟩ := Option.map_eq_some_iff.mp h
  obtain ⟨rfl, rfl⟩ := Prod.mk.inj hresult
  obtain ⟨hmem, hmatch⟩ := longest?_mem hlongest
  exact ⟨name, hmem, takesOff_keyword? (hne _ hmem) hmatch⟩

/-- The next word takes itself off, with the blanks around it. -/
theorem takesOff_nextWord? {word : Text} (h : nextWord? line = some (word, rest)) :
    TakesOff (Trailed (IsLaidOut [word])) line rest ∧ rest.Stops isBlank := by
  obtain ⟨hword, behind, hline, -, rfl⟩ := nextWord?_eq_some h
  obtain ⟨before, hbefore, htrim, -⟩ := exists_blanks_append_trimStart line
  obtain ⟨gap, hgap, hbehind, hstops⟩ := exists_blanks_append_trimStart behind
  have hlaid : IsLaidOut [word] (before ++ word) :=
    ⟨[(before, word)], List.forall_mem_singleton.mpr ⟨hbefore, hword⟩, rfl, by simp [layOut]⟩
  refine ⟨⟨⟨before ++ word ++ gap, ?_, _, gap, rfl, hlaid, hgap⟩, length_nextWord? h⟩, hstops⟩
  rw [htrim, hline, List.append_assoc, List.append_assoc, ← hbehind]

/-- A qualifier takes its expression off. -/
theorem takesOff_read (h : Qualifier.read context line = .ok (q, rest)) :
    TakesOff (fun part => Qualifier.read context part = .ok (q, [])) line rest := by
  obtain ⟨inner, hline, happend⟩ := exists_expression h
  have hpart := happend []
  rw [List.append_nil] at hpart
  exact ⟨⟨_, hline, hpart⟩, length_read h⟩

/-- A conjunction takes its terms off. -/
theorem takesOff_conjunction {terms : List Term} (h : conjunction line = .ok (terms, rest)) :
    TakesOff (Conjunction.Written terms · rest) line rest ∧ rest.Stops isBlank := by
  obtain ⟨hstops, -, part, hline, hwritten⟩ := conjunction_eq_ok_iff.mp h
  exact ⟨⟨⟨part, hline, hwritten⟩, length_conjunction h⟩, hstops⟩

end TakesOff

/-! ## Loops -/

/-- What a round of a loop over a text comes to: it goes on with what is left, or it ends. -/
inductive Round (S R : Type) where
  | again (state : S) (rest : Text)
  | done (result : R)

/-- Runs a loop for at most a number of rounds; nothing if it has not ended by then. -/
def runRounds {S R : Type} (round : S → Text → Round S R) : (limit : Nat) → S → Text → Option R
  | 0, _, _ => none
  | limit + 1, state, text =>
    match round state text with
    | .again state rest => runRounds round limit state rest
    | .done result => some result

/-- What a loop comes to after a round, given what it comes to from there. -/
def Round.result {S R : Type} (value : S → Text → R) : Round S R → R
  | .again state rest => value state rest
  | .done result => result

section Loops

variable {S R : Type} (round : S → Text → Round S R) (value : S → Text → R)

/-- A loop whose rounds shorten its text ends within as many rounds as the text has characters, and
    one more.  By induction on the limit. -/
theorem runRounds_eq_some
    (hshort : ∀ state text state' rest, round state text = .again state' rest →
      rest.length < text.length)
    (hvalue : ∀ state text, value state text = (round state text).result value)
    {limit : Nat} (state : S) (text : Text) (hlimit : text.length < limit) :
    runRounds round limit state text = some (value state text) := by
  induction limit generalizing state text with
  | zero => omega
  | succ limit ih =>
    rw [runRounds, hvalue]
    cases hround : round state text with
    | again state' rest =>
      have hless := hshort state text state' rest hround
      exact ih state' rest (by omega)
    | done result => rfl

end Loops

/-! ## The loops of the readers -/

/-- Reads one more term of a conjunction. -/
def conjunctionRound (terms : List Term) (text : Text) :
    Round (List Term) (Except Fault (List Term × Text)) :=
  match term text with
  | .error fault => .done (.error fault)
  | .ok (t, rest) =>
    match after? ['&'] (trimStart rest) with
    | some more => .again (terms ++ [t]) more
    | none => .done (.ok (terms ++ [t], trimStart rest))

/-- Reads one more conjunction of an expression. -/
def disjunctionRound (conjunctions : QualifierExpr) (text : Text) :
    Round QualifierExpr (Except Fault (QualifierExpr × Text)) :=
  match conjunction text with
  | .error fault => .done (.error fault)
  | .ok (terms, rest) =>
    match after? ['|'] rest with
    | some more => .again (conjunctions ++ [terms]) more
    | none =>
      match after? [')'] rest with
      | some rest => .done (.ok (conjunctions ++ [terms], rest))
      | none => .done (.error (.qualifierNear (trim rest)))

/-- Adds one more item to a header. -/
def headerRound (context : QualifierContext) (header : ShaderHeader) (text : Text) :
    Round ShaderHeader (Except Fault ShaderHeader) :=
  if text.isEmpty then .done (.ok header)
  else
    match ShaderHeader.item context text with
    | .error fault => .done (.error fault)
    | .ok (i, rest) => .again (header.apply i) rest

/-- Takes one more qualifier off a test line, or reads its command.  The marks say whether a
    qualifier so far expects failure. -/
def testLineRound (context : QualifierContext) (marks : Bool × Bool) (text : Text) :
    Round (Bool × Bool) (Except Fault (Option TestLine)) :=
  match TestLine.effect? context text with
  | .error fault => .done (.error fault)
  | .ok none => .done ((Command.read text).map fun command => some ⟨marks.1, marks.2, command⟩)
  | .ok (some (.todo, q, rest)) => .again (marks.1 || q.holds, marks.2) rest
  | .ok (some (.bug, q, rest)) => .again (marks.1, marks.2 || q.holds) rest
  | .ok (some (.condition, q, rest)) => if q.holds then .again marks rest else .done (.ok none)

/-- Reads one more option name. -/
def optionsRound (options : CompileOptions) (text : Text) :
    Round CompileOptions (CompileOptions × Option Fault) :=
  match nextWord? text with
  | none => .done (options, none)
  | some (word, rest) =>
    match CompileOption.ofName? (String.ofList word) with
    | some option => .again (options.insert option) rest
    | none => .done (options, some (.unknown "compile option" word))

/-! Each loop comes to what is read from here on, added to what was read so far. -/

def conjunctionOnto (terms : List Term) (text : Text) : Except Fault (List Term × Text) :=
  (conjunction text).map fun (more, rest) => (terms ++ more, rest)

def disjunctionOnto (e : QualifierExpr) (text : Text) : Except Fault (QualifierExpr × Text) :=
  (disjunction text).map fun (more, rest) => (e ++ more, rest)

def itemsOnto (context : QualifierContext) (header : ShaderHeader) (text : Text) :
    Except Fault ShaderHeader :=
  (ShaderHeader.items context text).map (List.foldl ShaderHeader.apply header)

section Rounds

variable {context : QualifierContext} {text rest : Text}

/-- Another round of a conjunction has a shorter text. -/
theorem length_conjunctionRound {terms terms' : List Term}
    (h : conjunctionRound terms text = .again terms' rest) : rest.length < text.length := by
  unfold conjunctionRound at h
  split at h
  · cases h
  · rename_i t behind hterm
    split at h
    · rename_i more hmore
      cases h
      have hterm := length_term hterm
      have htrim := length_trimStart_le behind
      have hmore := length_after? hmore
      omega
    · cases h

/-- The rounds add the terms that are left to the terms so far. -/
theorem conjunctionOnto_eq (terms : List Term) (text : Text) :
    conjunctionOnto terms text = (conjunctionRound terms text).result conjunctionOnto := by
  rw [conjunctionOnto, conjunction, conjunctionRound]
  cases hterm : term text with
  | error fault => rfl
  | ok found =>
    obtain ⟨t, behind⟩ := found
    dsimp only
    cases hmore : after? ['&'] (trimStart behind) with
    | none => rfl
    | some more =>
      dsimp only [Round.result]
      rw [conjunctionOnto]
      cases conjunction more with
      | error fault => rfl
      | ok found => simp [Except.map]

/-- Another round of a disjunction has a shorter text. -/
theorem length_disjunctionRound {e e' : QualifierExpr}
    (h : disjunctionRound e text = .again e' rest) : rest.length < text.length := by
  unfold disjunctionRound at h
  split at h
  · cases h
  · rename_i terms behind hconjunction
    split at h
    · rename_i more hmore
      cases h
      have hconjunction := length_conjunction hconjunction
      have hmore := length_after? hmore
      omega
    · split at h <;> cases h

/-- A disjunction is read round by round. -/
theorem disjunctionOnto_eq (e : QualifierExpr) (text : Text) :
    disjunctionOnto e text = (disjunctionRound e text).result disjunctionOnto := by
  rw [disjunctionOnto, disjunction, disjunctionRound]
  cases hconjunction : conjunction text with
  | error fault => rfl
  | ok found =>
    obtain ⟨terms, behind⟩ := found
    dsimp only
    cases hmore : after? ['|'] behind with
    | none =>
      dsimp only
      cases after? [')'] behind <;> rfl
    | some more =>
      dsimp only [Round.result]
      rw [disjunctionOnto]
      cases disjunction more with
      | error fault => rfl
      | ok found => simp [Except.map]

/-- Another round of a header has a shorter text. -/
theorem length_headerRound {header header' : ShaderHeader}
    (h : headerRound context header text = .again header' rest) : rest.length < text.length := by
  unfold headerRound at h
  split at h
  · cases h
  · split at h
    · cases h
    · rename_i hitem
      cases h
      exact ShaderHeader.length_item hitem

/-- A header is read round by round. -/
theorem itemsOnto_eq (header : ShaderHeader) (text : Text) :
    itemsOnto context header text =
      (headerRound context header text).result (itemsOnto context) := by
  rw [itemsOnto, ShaderHeader.items, headerRound]
  split
  · rfl
  · cases hitem : ShaderHeader.item context text with
    | error fault => rfl
    | ok found =>
      dsimp only [Round.result]
      rw [itemsOnto]
      cases ShaderHeader.items context found.2 <;> rfl

/-- Another round of a test line has a shorter text. -/
theorem length_testLineRound {marks marks' : Bool × Bool}
    (h : testLineRound context marks text = .again marks' rest) : rest.length < text.length := by
  unfold testLineRound at h
  split at h
  · cases h
  · cases h
  · rename_i heffect
    cases h
    exact TestLine.length_effect? heffect
  · rename_i heffect
    cases h
    exact TestLine.length_effect? heffect
  · rename_i heffect
    split at h
    · cases h
      exact TestLine.length_effect? heffect
    · cases h

/-- The marks of a test line are read round by round. -/
theorem readWith_eq_result (marks : Bool × Bool) (text : Text) :
    TestLine.readWith context marks.1 marks.2 text = (testLineRound context marks text).result
      fun marks => TestLine.readWith context marks.1 marks.2 := by
  rw [TestLine.readWith_eq, testLineRound]
  cases TestLine.effect? context text with
  | error fault => rfl
  | ok found =>
    obtain - | ⟨effect, q, rest⟩ := found
    · rfl
    · cases effect with
      | todo | bug => rfl
      | condition =>
        dsimp only
        split <;> rfl

/-- Another round of options has a shorter text. -/
theorem length_optionsRound {options options' : CompileOptions}
    (h : optionsRound options text = .again options' rest) : rest.length < text.length := by
  unfold optionsRound at h
  split at h
  · cases h
  · rename_i hnext
    split at h
    · cases h
      exact length_nextWord? hnext
    · cases h

/-- Options are read round by round. -/
theorem optionWords_eq_result (options : CompileOptions) (text : Text) :
    RequireBlock.optionWords (words text) options = (optionsRound options text).result
      fun options rest => RequireBlock.optionWords (words rest) options := by
  rw [optionsRound]
  cases hnext : nextWord? text with
  | none => rw [← words_trimStart, trimStart_of_nextWord? hnext]; rfl
  | some found =>
    rw [words_of_nextWord? hnext, RequireBlock.optionWords]
    dsimp only
    cases CompileOption.ofName? (String.ofList found.1) <;> rfl

end Rounds

/-! ## Progress -/

/-- Whatever the readers match on a line is taken off it, mostly with all blanks behind it. -/
structure Advances (context : QualifierContext) (line : Text) : Prop where
  keyword : ∀ keyword rest, words keyword.toList ≠ [] → keyword? line keyword = some rest →
    TakesOff (Trailed (IsLaidOut (words keyword.toList))) line rest ∧ rest.Stops isBlank
  qualified : ∀ keyword q rest, words keyword.toList ≠ [] →
    qualifiedKeyword context line keyword = .ok (some (q, rest)) →
      TakesOff (Trailed (IsQualified context keyword q)) line rest
  table : ∀ (T : Type) (table : List (String × T)) value rest,
    (∀ entry ∈ table, words entry.1.toList ≠ []) → tableKeyword? line table = some (value, rest) →
      ∃ name, (name, value) ∈ table ∧
        TakesOff (Trailed (IsLaidOut (words name.toList))) line rest ∧ rest.Stops isBlank
  word : ∀ word rest, nextWord? line = some (word, rest) →
    TakesOff (Trailed (IsLaidOut [word])) line rest ∧ rest.Stops isBlank
  qualifier : ∀ q rest, Qualifier.read context line = .ok (q, rest) →
    TakesOff (fun part => Qualifier.read context part = .ok (q, [])) line rest
  conjunction : ∀ terms rest, conjunction line = .ok (terms, rest) →
    TakesOff (Conjunction.Written terms · rest) line rest ∧ rest.Stops isBlank

/-- The loops over a line end, well-formed or not, within as many rounds as it has characters, and
    one more, and they come to what is read. -/
structure LoopsEnd (context : QualifierContext) (line : Text) : Prop where
  conjunction : runRounds conjunctionRound (line.length + 1) [] line =
    some (ShaderConformance.conjunction line)
  disjunction : runRounds disjunctionRound (line.length + 1) [] line =
    some (ShaderConformance.disjunction line)
  header : ∀ type,
    runRounds (headerRound context) (line.length + 1) (.plain type) (trimStart line) =
      some (ShaderHeader.read context type line)
  testLine : runRounds (testLineRound context) (line.length + 1) (false, false) line =
    some (TestLine.read context line)
  options : runRounds optionsRound (line.length + 1) .none line =
    some (RequireBlock.optionWords (words line) .none)

/-- The width of the blanks around the words that are matched does not matter, neither to whether
    they match nor to what is left. -/
structure IgnoresWidths (context : QualifierContext) : Prop where
  keyword : ∀ keyword, IgnoresRuns (keyword? · keyword) id
  table : ∀ (T : Type) (table : List (String × T)), IgnoresRuns (tableKeyword? · table) Prod.snd
  word : IgnoresRuns nextWord? Prod.snd
  /-- A run before what the keyword alone leaves. -/
  qualified : ∀ keyword (a b b' c rest : Text), b.IsRun → b'.IsRun →
    keyword? (a ++ (b ++ (c ++ rest))) keyword = none ∨
        keyword? (a ++ (b ++ (c ++ rest))) keyword = some rest →
      qualifiedKeyword context (a ++ (b ++ (c ++ rest))) keyword =
        qualifiedKeyword context (a ++ (b' ++ (c ++ rest))) keyword
  /-- Blanks may always be replaced by more blanks. -/
  longer : ∀ gap gap' : Text, gap'.Blanks → gap.length ≤ gap'.length → gap'.Keeps gap
  /-- All blanks around a keyword at once, also where there were none. -/
  keywordRelaid : ∀ keyword parts parts' gap gap' rest, IsLayout parts →
    parts.map Prod.snd = words keyword.toList → Relaid parts' parts → gap'.Keeps gap →
      keyword? (layOut parts (gap ++ rest)) keyword = some rest →
        keyword? (layOut parts' (gap' ++ rest)) keyword = some rest
  /-- All blanks around a keyword and its qualifier at once. -/
  qualifiedRelaid : ∀ keyword parts parts' expr gap gap' rest q q', IsLayout parts →
    parts.map Prod.snd = words keyword.toList → Relaid parts' parts →
      QualifierText context expr q' → gap.Blanks → gap'.Keeps gap →
        qualifiedKeyword context (layOut parts (expr ++ (gap ++ rest))) keyword =
            .ok (some (q, rest)) →
          qualifiedKeyword context (layOut parts' (expr ++ (gap' ++ rest))) keyword =
            .ok (some (q, rest))

/-- Every reader takes something off a line. -/
theorem advances (context : QualifierContext) (line : Text) : Advances context line where
  keyword _ _ := takesOff_keyword?
  qualified _ _ _ := takesOff_qualifiedKeyword
  table _ _ _ _ := takesOff_tableKeyword?
  word _ _ := takesOff_nextWord?
  qualifier _ _ := takesOff_read
  conjunction _ _ := takesOff_conjunction

/-- Every loop over a line ends. -/
theorem loopsEnd (context : QualifierContext) (line : Text) : LoopsEnd context line where
  conjunction := by
    rw [runRounds_eq_some conjunctionRound conjunctionOnto (fun _ _ _ _ => length_conjunctionRound)
      conjunctionOnto_eq _ _ (Nat.lt_succ_self _), conjunctionOnto]
    cases conjunction line <;> rfl
  disjunction := by
    rw [runRounds_eq_some disjunctionRound disjunctionOnto (fun _ _ _ _ => length_disjunctionRound)
      disjunctionOnto_eq _ _ (Nat.lt_succ_self _), disjunctionOnto]
    cases disjunction line <;> rfl
  header type := by
    -- The limit is for the whole line, blanks at its start included.
    have hlimit : (trimStart line).length < line.length + 1 :=
      Nat.lt_succ_of_le (length_trimStart_le line)
    exact runRounds_eq_some (headerRound context) (itemsOnto context)
      (fun _ _ _ _ => length_headerRound) itemsOnto_eq _ _ hlimit
  testLine :=
    runRounds_eq_some (testLineRound context)
      (fun marks => TestLine.readWith context marks.1 marks.2)
      (fun _ _ _ _ => length_testLineRound) readWith_eq_result _ _ (Nat.lt_succ_self _)
  options :=
    runRounds_eq_some optionsRound
      (fun options rest => RequireBlock.optionWords (words rest) options)
      (fun _ _ _ _ => length_optionsRound) optionWords_eq_result _ _ (Nat.lt_succ_self _)

/-- Every reader ignores the width of blanks. -/
theorem ignoresWidths (context : QualifierContext) : IgnoresWidths context where
  keyword := ignoresRuns_keyword?
  table _ := ignoresRuns_tableKeyword?
  word := ignoresRuns_nextWord?
  qualified _ _ _ _ _ _ hb hb' h := qualifiedKeyword_run hb hb' h
  longer _ _ := Keeps.of_length_le
  keywordRelaid _ _ _ _ _ _ hparts hwords hrelaid hgap h :=
    keyword?_layOut hparts hwords hrelaid hgap h
  qualifiedRelaid _ _ _ _ _ _ _ _ _ hparts hwords hrelaid hexpr hblanks hgap h :=
    qualifiedKeyword_layOut hparts hwords hrelaid hexpr hblanks hgap h

/-- Whatever a reader matches is taken off the line, all loops over a line end, and the width of
    blanks matters to neither. -/
theorem reading_advances (context : QualifierContext) :
    (∀ line, Advances context line ∧ LoopsEnd context line) ∧ IgnoresWidths context :=
  ⟨fun line => ⟨advances context line, loopsEnd context line⟩, ignoresWidths context⟩

/-- Items of a header, the last of which is not finished. -/
def unfinishedItems : Text := "fail(sm<4.0)  todo(sm>=".toList

/-- A keyword of two words and an item with its qualifier are taken off their lines, the loop over
    unfinished items ends with a fault, and a tab between the words of the keyword is as good as
    two spaces. -/
theorem reading_advances_unfinished :
    let context : QualifierContext := ⟨.sm4_0, []⟩
    TakesOff (Trailed (IsLaidOut ["shader".toList, "model".toList])) "shader  model < 6".toList
      "< 6".toList ∧
    keyword? "shader\tmodel < 6".toList "shader model" = some "< 6".toList ∧
    TakesOff (Trailed (IsQualified context "fail" ⟨false, .below .sm4_0, .below .sm4_0⟩))
      unfinishedItems "todo(sm>=".toList ∧
    ∃ fault, runRounds (headerRound context) (unfinishedItems.length + 1) (.plain .pixel)
      unfinishedItems = some (.error fault) := by
  intro context
  obtain ⟨hline, hwidths⟩ := reading_advances context
  have hkeyword : keyword? "shader  model < 6".toList "shader model" = some "< 6".toList := by
    decide
  -- The same keyword with other blanks between its words.
  have hrelaid : Relaid [([], "shader".toList), ("\t".toList, "model".toList)]
      [([], "shader".toList), ("  ".toList, "model".toList)] := by
    refine .cons ⟨⟨nofun, id⟩, rfl⟩ (.cons ⟨⟨List.all_eq_true.mp ?_, nofun⟩, rfl⟩ .nil)
    decide
  have hlayout : IsLayout [([], "shader".toList), ("  ".toList, "model".toList)] := by
    have hword {w : Text} (hne : w ≠ []) (hw : w.all (!isBlank ·) = true) : w.IsWord :=
      ⟨hne, by simpa using hw⟩
    refine List.forall_mem_cons.mpr ⟨⟨nofun, hword (by decide) (by decide)⟩,
      List.forall_mem_singleton.mpr ⟨List.all_eq_true.mp ?_, hword (by decide) (by decide)⟩⟩
    decide
  -- The qualifier is not finished, and the loop ends with the fault.
  have hrefused : (ShaderHeader.read context .pixel unfinishedItems).toOption.isNone = true := by
    decide +kernel
  refine ⟨((hline _).1.keyword _ _ (by decide) hkeyword).1,
    hwidths.keywordRelaid "shader model" _ _ " ".toList " ".toList _ hlayout (by decide) hrelaid
      ⟨List.all_eq_true.mp (by decide), id⟩ hkeyword,
    (hline _).1.qualified _ _ _ (by decide) (by decide +kernel), ?_⟩
  have hends := (hline unfinishedItems).2.header .pixel
  cases hread : ShaderHeader.read context .pixel unfinishedItems with
  | ok header =>
    rw [hread] at hrefused
    cases hrefused
  | error fault =>
    rw [hread] at hends
    exact ⟨fault, hends⟩

end ShaderConformance
