import ShaderConformance.Qualifier.Basic
import ShaderConformance.Text.Keyword
import ShaderConformance.Text.Letter

/-!
# Reading qualifiers

    expression := conjunction ('|' conjunction)*
    conjunction := term ('&' term)*
    term := 'sm>=' model | 'sm<' model | ['!'] tag

Blanks may stand around every term and after the exclamation mark.  A tag must
not be followed by a character that could continue it.

Main statements: `length_term`, `length_conjunction` and `length_expression`
say that what was read is taken off the text.
-/

namespace ShaderConformance

open Text

/-- The characters that could continue a tag. -/
def continuesTag (c : Char) : Bool :=
  isAlphanumeric c || c == '-' || c == '_' || c == '.' || c == '<'

/-- Matches one tag at the front of a text. -/
def tagNamed? (s : Text) (name : String) : Option (String × Text) :=
  match after? name.toList s with
  | none => none
  | some [] => some (name, [])
  | some (c :: rest) => if continuesTag c then none else some (name, c :: rest)

/-- Matches a known tag at the front of a text.  At most one tag matches, since no
    tag continues another one with a character that does not continue tags. -/
def tag? (s : Text) : Option (String × Text) := knownTags.findSome? (tagNamed? s)

/-- The characters of a model in a qualifier. -/
def isModelChar (c : Char) : Bool := c.isDigit || c == '.'

/-- Reads the model of a bound. -/
def boundModel (s : Text) : Except Fault (ShaderModel × Text) :=
  let literal := s.takeWhile isModelChar
  match ShaderModel.parse literal with
  | .ok model => .ok (model, s.dropWhile isModelChar)
  | .error cause => .error (.qualifierModel literal cause)

/-- The word that stands where a term is expected. -/
def termWord (s : Text) : Text :=
  s.takeWhile fun c => !(c == ')' || c == '&' || c == '|') && !isBlank c

/-- Takes an exclamation mark and the blanks after it off a text. -/
def negation : Text → Bool × Text
  | '!' :: rest => (true, trimStart rest)
  | s => (false, s)

/-- Reads a tag, negated or not. -/
def tagTerm (s : Text) : Except Fault (Term × Text) :=
  let (negated, s) := negation s
  match tag? s with
  | some (name, rest) => .ok (.tag name negated, rest)
  | none => .error (.unknown "qualifier term" (termWord s))

/-- Reads one term. -/
def term (s : Text) : Except Fault (Term × Text) :=
  let s := trimStart s
  match after? "sm>=".toList s with
  | some rest => (boundModel rest).map fun (model, rest) => (.atLeast model, rest)
  | none =>
    match after? "sm<".toList s with
    | some rest => do
      let (model, rest) ← boundModel rest
      -- No model is below the oldest one.
      if model = ShaderModel.oldest then throw (.qualifierNeverHolds model)
      return (.below model, rest)
    | none => tagTerm s

/-- What stands behind a bound is no longer than the text. -/
theorem length_boundModel {s rest : Text} {m : ShaderModel} (h : boundModel s = .ok (m, rest)) :
    rest.length ≤ s.length := by
  unfold boundModel at h
  simp only [] at h
  split at h
  · simp only [Except.ok.injEq, Prod.mk.injEq] at h
    obtain ⟨-, rfl⟩ := h
    exact (List.dropWhile_sublist _).length_le
  · simp at h

/-- A tag that is found is the one that was looked for, and the rest stands behind it. -/
theorem tagNamed?_eq {s rest : Text} {name found : String}
    (h : tagNamed? s name = some (found, rest)) : found = name ∧ s = name.toList ++ rest := by
  unfold tagNamed? at h
  split at h
  · simp at h
  · rename_i hs
    simp only [Option.some.injEq, Prod.mk.injEq] at h
    obtain ⟨rfl, rfl⟩ := h
    exact ⟨rfl, after?_eq_some_iff.1 hs⟩
  · rename_i hs
    split at h
    · simp at h
    · simp only [Option.some.injEq, Prod.mk.injEq] at h
      obtain ⟨rfl, rfl⟩ := h
      exact ⟨rfl, after?_eq_some_iff.1 hs⟩

/-- A tag that is found is a known one, and the rest stands behind it. -/
theorem tag?_eq {s rest : Text} {name : String} (h : tag? s = some (name, rest)) :
    name ∈ knownTags ∧ s = name.toList ++ rest := by
  obtain ⟨n, hn, hm⟩ := List.exists_of_findSome?_eq_some h
  obtain ⟨rfl, hs⟩ := tagNamed?_eq hm
  exact ⟨hn, hs⟩

/-- No tag is empty. -/
theorem length_pos_of_mem_knownTags {name : String} (h : name ∈ knownTags) :
    0 < name.toList.length := by
  revert name
  decide

/-- What stands behind negations is no longer than the text. -/
theorem length_negation (s : Text) : (negation s).2.length ≤ s.length := by
  unfold negation
  split
  · rename_i rest
    have := length_trimStart_le rest
    simp only [List.length_cons]
    omega
  · exact Nat.le_refl _

/-- What stands behind a tag is shorter than the text. -/
theorem length_tagTerm {s rest : Text} {t : Term} (h : tagTerm s = .ok (t, rest)) :
    rest.length < s.length := by
  have hneg := length_negation s
  unfold tagTerm at h
  simp only [] at h
  split at h
  · rename_i name rest' htag
    -- The tag is known, so it has a character, and the negation takes off more at most.
    obtain ⟨hn, hs⟩ := tag?_eq htag
    have hpos := length_pos_of_mem_knownTags hn
    simp only [Except.ok.injEq, Prod.mk.injEq] at h
    obtain ⟨-, rfl⟩ := h
    have hlen := congrArg List.length hs
    simp only [List.length_append] at hlen
    omega
  · simp at h

/-- What stands behind a term is shorter than the text. -/
theorem length_term {s rest : Text} {t : Term} (h : term s = .ok (t, rest)) :
    rest.length < s.length := by
  have htrim := length_trimStart_le s
  unfold term at h
  simp only [] at h
  split at h
  · -- A lower bound.
    rename_i r hr
    have hlen := length_after? hr
    cases hb : boundModel r with
    | error e => simp [hb, Except.map] at h
    | ok p =>
      obtain ⟨m, r'⟩ := p
      have := length_boundModel hb
      simp only [hb, Except.map, Except.ok.injEq, Prod.mk.injEq] at h
      obtain ⟨-, rfl⟩ := h
      have : ("sm>=".toList).length = 4 := rfl
      omega
  · split at h
    · -- An upper bound, which may be refused although its model was read.
      rename_i r hr
      have hlen := length_after? hr
      cases hb : boundModel r with
      | error e => simp [hb, bind, Except.bind] at h
      | ok p =>
        obtain ⟨m, r'⟩ := p
        have := length_boundModel hb
        have : ("sm<".toList).length = 3 := rfl
        simp only [hb, bind, Except.bind] at h
        split at h
        · simp [throw, throwThe, MonadExceptOf.throw] at h
        · simp only [pure, Except.pure, Except.ok.injEq, Prod.mk.injEq] at h
          obtain ⟨-, rfl⟩ := h
          omega
    · have := length_tagTerm h
      omega

/-- Reads a conjunction, and drops the blanks after it. -/
def conjunction (s : Text) : Except Fault (List Term × Text) :=
  match _h : term s with
  | .error fault => .error fault
  | .ok (t, rest) =>
    match _hmore : after? ['&'] (trimStart rest) with
    | some more => (conjunction more).map fun (terms, rest) => (t :: terms, rest)
    | none => .ok ([t], trimStart rest)
termination_by s.length
decreasing_by
  have h1 := length_term _h
  have h2 := length_trimStart_le rest
  have h3 := length_after? _hmore
  simp only [List.length_cons, List.length_nil] at h3
  omega

/-- What stands behind a conjunction is shorter than the text. -/
theorem length_conjunction {s rest : Text} {ts : List Term} (h : conjunction s = .ok (ts, rest)) :
    rest.length < s.length := by
  fun_induction conjunction s generalizing ts with
  | case1 => simp at h
  | case2 s t mid ht more hmore ih =>
    -- A term, an ampersand and a shorter conjunction.
    have h1 := length_term ht
    have h2 := length_trimStart_le mid
    have h3 := length_after? hmore
    simp only [List.length_cons, List.length_nil] at h3
    cases hc : conjunction more with
    | error e => simp [hc, Except.map] at h
    | ok p =>
      simp only [hc, Except.map, Except.ok.injEq, Prod.mk.injEq] at h
      obtain ⟨-, rfl⟩ := h
      have := ih hc
      omega
  | case3 s t mid ht hmore =>
    -- The last term.
    have h1 := length_term ht
    have h2 := length_trimStart_le mid
    simp only [Except.ok.injEq, Prod.mk.injEq] at h
    obtain ⟨-, rfl⟩ := h
    omega

/-- Reads conjunctions up to the closing parenthesis, which is dropped. -/
def disjunction (s : Text) : Except Fault (QualifierExpr × Text) :=
  match _h : conjunction s with
  | .error fault => .error fault
  | .ok (terms, rest) =>
    match _hmore : after? ['|'] rest with
    | some more => (disjunction more).map fun (e, rest) => (terms :: e, rest)
    | none =>
      match after? [')'] rest with
      | some rest => .ok ([terms], rest)
      | none => .error (.qualifierNear (trim rest))
termination_by s.length
decreasing_by
  have h1 := length_conjunction _h
  have h3 := length_after? _hmore
  simp only [List.length_cons, List.length_nil] at h3
  omega

/-- Reads an expression in parentheses. -/
def expression (s : Text) : Except Fault (QualifierExpr × Text) :=
  match after? ['('] s with
  | some rest => disjunction rest
  | none => .error .qualifierNotOpened

/-- Reads and evaluates an expression in parentheses. -/
def Qualifier.read (context : QualifierContext) (s : Text) : Except Fault (Qualifier × Text) :=
  (expression s).map fun (e, rest) => (e.evaluate context, rest)

/-- What stands behind a disjunction is shorter than the text. -/
theorem length_disjunction {s rest : Text} {e : QualifierExpr}
    (h : disjunction s = .ok (e, rest)) : rest.length < s.length := by
  fun_induction disjunction s generalizing e with
  | case1 => simp at h
  | case2 s terms mid hs more hmore ih =>
    -- A conjunction, a bar and a shorter disjunction.
    have h1 := length_conjunction hs
    have h3 := length_after? hmore
    simp only [List.length_cons, List.length_nil] at h3
    cases hc : disjunction more with
    | error e => simp [hc, Except.map] at h
    | ok p =>
      simp only [hc, Except.map, Except.ok.injEq, Prod.mk.injEq] at h
      obtain ⟨-, rfl⟩ := h
      have := ih hc
      omega
  | case3 s terms mid hs hmore rest' hrest =>
    -- The last conjunction and the closing parenthesis.
    have h1 := length_conjunction hs
    have h3 := length_after? hrest
    simp only [List.length_cons, List.length_nil] at h3
    simp only [Except.ok.injEq, Prod.mk.injEq] at h
    obtain ⟨-, rfl⟩ := h
    omega
  | case4 => simp at h

/-- What stands behind an expression is shorter than the text. -/
theorem length_expression {s rest : Text} {e : QualifierExpr}
    (h : expression s = .ok (e, rest)) : rest.length < s.length := by
  unfold expression at h
  split at h
  · rename_i hs
    have h1 := length_after? hs
    have h2 := length_disjunction h
    omega
  · simp at h

/-- What stands behind a qualifier is shorter than the text. -/
theorem length_read {context : QualifierContext} {s rest : Text} {q : Qualifier}
    (h : Qualifier.read context s = .ok (q, rest)) : rest.length < s.length := by
  unfold Qualifier.read at h
  cases hc : expression s with
  | error e => simp [hc, Except.map] at h
  | ok p =>
    obtain ⟨e', r'⟩ := p
    simp only [hc, Except.map, Except.ok.injEq, Prod.mk.injEq] at h
    obtain ⟨-, rfl⟩ := h
    exact length_expression hc

/-- Matches a keyword that an expression in parentheses may follow directly; without
    one the qualifier always holds.  `none` if the keyword does not match. -/
def qualifiedKeyword (context : QualifierContext) (line : Text) (keyword : String) :
    Except Fault (Option (Qualifier × Text)) :=
  match rawKeyword? line keyword.toList with
  | none => .ok none
  | some rest =>
    if rest.head? = some '(' then
      (Qualifier.read context rest).map fun (q, rest) => some (q, trimStart rest)
    else .ok (some (.always, trimStart rest))

/-- What stands behind a keyword with its qualifier is shorter than the line. -/
theorem length_qualifiedKeyword {context : QualifierContext} {line rest : Text}
    {keyword : String} {q : Qualifier}
    (h : qualifiedKeyword context line keyword = .ok (some (q, rest)))
    (hk : 0 < (words keyword.toList).flatten.length) : rest.length < line.length := by
  unfold qualifiedKeyword at h
  split at h
  · simp at h
  · rename_i r hr
    have h1 := length_rawKeyword? hr hk
    split at h
    · -- An expression follows the keyword directly.
      cases hc : Qualifier.read context r with
      | error e => simp [hc, Except.map] at h
      | ok p =>
        obtain ⟨q', r'⟩ := p
        simp only [hc, Except.map, Except.ok.injEq, Option.some.injEq, Prod.mk.injEq] at h
        obtain ⟨-, rfl⟩ := h
        have h2 := length_read hc
        have h3 := length_trimStart_le r'
        omega
    · simp only [Except.ok.injEq, Option.some.injEq, Prod.mk.injEq] at h
      obtain ⟨-, rfl⟩ := h
      have h3 := length_trimStart_le r
      omega

/-- Matches the first of some keywords, with its qualifier. -/
def firstQualified {T : Type} (context : QualifierContext) (line : Text) :
    List (String × T) → Except Fault (Option (T × Qualifier × Text))
  | [] => .ok none
  | (keyword, value) :: more =>
    match qualifiedKeyword context line keyword with
    | .error fault => .error fault
    | .ok (some (q, rest)) => .ok (some (value, q, rest))
    | .ok none => firstQualified context line more

/-- What stands behind the first qualified keyword is shorter than the line. -/
theorem length_firstQualified {T : Type} {context : QualifierContext} {line rest : Text}
    {table : List (String × T)} {value : T} {q : Qualifier}
    (h : firstQualified context line table = .ok (some (value, q, rest))) (ht : HasWords table) :
    rest.length < line.length := by
  induction table with
  | nil => simp [firstQualified] at h
  | cons entry table ih =>
    obtain ⟨keyword, v⟩ := entry
    simp only [firstQualified] at h
    split at h
    · simp at h
    · rename_i hk
      simp only [Except.ok.injEq, Option.some.injEq, Prod.mk.injEq] at h
      obtain ⟨rfl, rfl, rfl⟩ := h
      exact length_qualifiedKeyword hk (ht (keyword, v) List.mem_cons_self)
    · exact ih h fun e he => ht e (List.mem_cons_of_mem _ he)

end ShaderConformance
