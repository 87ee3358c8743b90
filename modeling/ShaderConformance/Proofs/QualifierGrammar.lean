import Mathlib.Data.List.TakeWhile
import ShaderConformance.Qualifier.Reading

/-!
# The grammar of qualifiers

A qualifier is read by taking one term after another off a text.  This file gives the
grammar of qualifiers as a relation between an expression and the texts that it is
written as, without saying how to read them, and what the parts of an evaluated qualifier
mean, without masks.  Models and tags are written as long as they can be, so whether a
text is a way to write something depends on what follows it.

## Main definitions

- `Term.Written`, `Conjunction.Written`, `QualifierExpr.Written`: the grammar
- `Term.Admits`, `Term.Agrees`, `Term.Holds`: what a term says of models and tags

## Main statements

- `expression_eq_ok_iff`: what is read is what the grammar derives
- `qualifier_read_eq_ok_iff`: a qualifier is read and evaluated exactly
-/

namespace ShaderConformance

open Text

/-! ## Where a class of characters stops -/

/-- A text that does not go on with a character of a class. -/
def Text.Stops (p : Char → Bool) (s : Text) : Prop := ∀ c ∈ s.head?, p c = false

section Stops

variable {p : Char → Bool} {w s : Text}

/-- A text stops at its first character. -/
theorem stops_cons_iff {c : Char} : Text.Stops p (c :: s) ↔ p c = false := by
  simp [Text.Stops]

/-- What is left after dropping stops there. -/
theorem stops_dropWhile (p : Char → Bool) (s : Text) : Text.Stops p (s.dropWhile p) := by
  induction s with
  | nil => simp [Text.Stops]
  | cons c cs ih =>
    rw [List.dropWhile_cons]
    split
    · exact ih
    · rename_i hc
      exact stops_cons_iff.mpr (by simpa using hc)

/-- Nothing is taken from a text that stops. -/
theorem takeWhile_of_stops (h : Text.Stops p s) : s.takeWhile p = [] := by
  cases s with
  | nil => rfl
  | cons c cs => rw [List.takeWhile_cons_of_neg (by simpa using stops_cons_iff.mp h)]

/-- Nothing is dropped from a text that stops. -/
theorem dropWhile_of_stops (h : Text.Stops p s) : s.dropWhile p = s := by
  cases s with
  | nil => rfl
  | cons c cs => rw [List.dropWhile_cons_of_neg (by simpa using stops_cons_iff.mp h)]

/-- A run of a class is taken off up to where the class stops. -/
theorem takeWhile_append_of_stops (hw : ∀ c ∈ w, p c = true) (h : Text.Stops p s) :
    (w ++ s).takeWhile p = w := by
  rw [List.takeWhile_append_of_pos hw, takeWhile_of_stops h, List.append_nil]

/-- Dropping ends where a text stops. -/
theorem dropWhile_append_of_stops (hw : ∀ c ∈ w, p c = true) (h : Text.Stops p s) :
    (w ++ s).dropWhile p = s := by
  rw [List.dropWhile_append_of_pos hw, dropWhile_of_stops h]

end Stops

/-- A text of blanks, possibly empty. -/
def Text.Blanks (s : Text) : Prop := ∀ c ∈ s, isBlank c = true

/-- Blanks are trimmed up to a text that begins with none. -/
theorem trimStart_append_of_stops {w s : Text} (hw : w.Blanks) (h : s.Stops isBlank) :
    trimStart (w ++ s) = s :=
  dropWhile_append_of_stops hw h

/-- What is trimmed off a text is blank, and what is left is not. -/
theorem exists_blanks_append_trimStart (s : Text) :
    ∃ w : Text, w.Blanks ∧ s = w ++ trimStart s ∧ (trimStart s).Stops isBlank :=
  ⟨s.takeWhile isBlank, fun _ hc => List.mem_takeWhile_imp hc,
    (List.takeWhile_append_dropWhile).symm, stops_dropWhile _ _⟩

/-! ## Models and tags -/

/-- A way to write a model in front of a text: the longest run of digits and points. -/
structure ShaderModel.Written (m : ShaderModel) (w rest : Text) : Prop where
  chars : ∀ c ∈ w, isModelChar c = true
  longest : rest.Stops isModelChar
  names : ShaderModel.parse w = .ok m

/-- A known tag in front of a text: no longer one begins there, and it does not go on. -/
structure WholeTag (name : String) (rest : Text) : Prop where
  known : name ∈ knownTags
  longest : ∀ other ∈ knownTags, other.toList <+: name.toList ++ rest →
    other.toList.length ≤ name.toList.length
  whole : rest.Stops continuesTag

/-- A bound is read if a model is written there. -/
theorem boundModel_eq_ok_iff {s rest : Text} {m : ShaderModel} :
    boundModel s = .ok (m, rest) ↔ ∃ w, s = w ++ rest ∧ m.Written w rest := by
  constructor
  · intro h
    unfold boundModel at h
    dsimp only at h
    split at h
    · rename_i model hparse
      obtain ⟨rfl, rfl⟩ := Prod.mk.inj (Except.ok.inj h)
      exact ⟨s.takeWhile isModelChar, List.takeWhile_append_dropWhile.symm,
        fun c hc => List.mem_takeWhile_imp hc, stops_dropWhile _ _, hparse⟩
    · cases h
  · rintro ⟨w, rfl, hchars, hlongest, hnames⟩
    unfold boundModel
    rw [takeWhile_append_of_stops hchars hlongest, dropWhile_append_of_stops hchars hlongest]
    simp only [hnames]

/-- A tag that another one continues is continued by a character that may continue tags. -/
theorem continuesTag_of_known {a b : String} (ha : a ∈ knownTags) (hb : b ∈ knownTags) {c : Char}
    {more : Text} (h : b.toList = a.toList ++ c :: more) : continuesTag c = true := by
  have hall : ∀ a ∈ knownTags, ∀ b ∈ knownTags,
      ((after? a.toList b.toList).bind List.head?).all continuesTag = true := by decide
  have hcontinues := hall a ha b hb
  rw [after?_eq_some_iff.mpr h] at hcontinues
  simpa using hcontinues

/-- Of the tags that begin a text, one that does not go on is the longest. -/
theorem length_le_of_stops {a b : String} (ha : a ∈ knownTags) (hb : b ∈ knownTags) {rest : Text}
    (hstops : rest.Stops continuesTag) (h : b.toList <+: a.toList ++ rest) :
    b.toList.length ≤ a.toList.length := by
  refine Nat.le_of_not_lt fun hlt => ?_
  -- The longer tag continues the shorter one into what follows it.
  obtain ⟨more, hmore⟩ :=
    List.prefix_of_prefix_length_le (List.prefix_append _ rest) h (Nat.le_of_lt hlt)
  cases more with
  | nil => simp [← hmore] at hlt
  | cons c more =>
    have hcontinues := continuesTag_of_known ha hb hmore.symm
    rw [← hmore, List.prefix_append_right_inj] at h
    obtain ⟨others, rfl⟩ := h
    rw [List.cons_append, stops_cons_iff, hcontinues] at hstops
    cases hstops

/-- A tag is found by its name, if nothing goes on with it. -/
theorem tagNamed?_eq_some_iff {s rest : Text} {name found : String} :
    tagNamed? s name = some (found, rest) ↔
      found = name ∧ s = name.toList ++ rest ∧ rest.Stops continuesTag := by
  unfold tagNamed?
  constructor
  · intro h
    split at h
    · cases h
    · -- The text ends with the name, or the name is not the start of a longer one.
      rename_i hafter
      obtain ⟨rfl, rfl⟩ := Prod.mk.inj (Option.some.inj h)
      exact ⟨rfl, after?_eq_some_iff.mp hafter, by simp [Text.Stops]⟩
    · rename_i hafter
      split at h
      · cases h
      · rename_i hc
        obtain ⟨rfl, rfl⟩ := Prod.mk.inj (Option.some.inj h)
        exact ⟨rfl, after?_eq_some_iff.mp hafter, stops_cons_iff.mpr (by simpa using hc)⟩
  · rintro ⟨rfl, hs, hstops⟩
    rw [after?_eq_some_iff.mpr hs]
    cases rest with
    | nil => rfl
    | cons c rest => simp [stops_cons_iff.mp hstops]

/-- Two tags that are whole at the front of a text are the same. -/
theorem eq_of_whole {s rest rest' : Text} {a b : String} (ha : a ∈ knownTags) (hb : b ∈ knownTags)
    (hs : s = a.toList ++ rest) (hs' : s = b.toList ++ rest') (hrest : rest.Stops continuesTag)
    (hrest' : rest'.Stops continuesTag) : a = b ∧ rest = rest' := by
  have hle := length_le_of_stops ha hb hrest ⟨rest', hs'.symm.trans hs⟩
  have hle' := length_le_of_stops hb ha hrest' ⟨rest, hs.symm.trans hs'⟩
  obtain ⟨hname, hrest⟩ := List.append_inj (hs.symm.trans hs') (Nat.le_antisymm hle' hle)
  exact ⟨String.toList_injective hname, hrest⟩

/-- A tag that is found is a whole one. -/
theorem tag?_eq_some_iff {s rest : Text} {name : String} :
    tag? s = some (name, rest) ↔ s = name.toList ++ rest ∧ WholeTag name rest := by
  constructor
  · intro h
    obtain ⟨known, hknown, hnamed⟩ := List.exists_of_findSome?_eq_some h
    obtain ⟨rfl, hs, hstops⟩ := tagNamed?_eq_some_iff.mp hnamed
    exact ⟨hs, hknown, fun other hother hprefix => length_le_of_stops hknown hother hstops hprefix,
      hstops⟩
  · rintro ⟨hs, hknown, -, hstops⟩
    -- Some tag is found, and it is this one.
    have hfound : (tag? s).isSome := by
      rw [tag?, List.findSome?_isSome_iff]
      exact ⟨name, hknown, by rw [tagNamed?_eq_some_iff.mpr ⟨rfl, hs, hstops⟩]; rfl⟩
    obtain ⟨⟨other, rest'⟩, hother⟩ := Option.isSome_iff_exists.mp hfound
    obtain ⟨known, hknown', hnamed⟩ := List.exists_of_findSome?_eq_some hother
    obtain ⟨rfl, hs', hstops'⟩ := tagNamed?_eq_some_iff.mp hnamed
    obtain ⟨rfl, rfl⟩ := eq_of_whole hknown hknown' hs hs' hstops hstops'
    exact hother

/-! ## Terms -/

/-- The ways to write a term in front of a text. -/
inductive Term.Written : Term → Text → Text → Prop
  | atLeast {m : ShaderModel} {w rest : Text} (h : m.Written w rest) :
      Written (.atLeast m) ("sm>=".toList ++ w) rest
  /-- No model is below the oldest one. -/
  | below {m : ShaderModel} {w rest : Text} (h : m.Written w rest)
      (hbelow : m ≠ ShaderModel.oldest) : Written (.below m) ("sm<".toList ++ w) rest
  | tag {name : String} {rest : Text} (h : WholeTag name rest) :
      Written (.tag name false) name.toList rest
  | notTag {name : String} {blanks rest : Text} (hblanks : blanks.Blanks)
      (h : WholeTag name rest) :
      Written (.tag name true) ('!' :: blanks ++ name.toList) rest

/-- The ways to write a term with blanks around it. -/
def Term.Spaced (t : Term) (w rest : Text) : Prop :=
  ∃ before core after, w = before ++ core ++ after ∧ before.Blanks ∧ after.Blanks ∧
    t.Written core (after ++ rest)

/-- A tag begins neither with a blank nor like another kind of term. -/
theorem exists_head_of_known {name : String} (h : name ∈ knownTags) :
    ∃ c more, name.toList = c :: more ∧ isBlank c = false ∧ c ≠ '!' ∧ c ≠ 's' := by
  have hall : ∀ name ∈ knownTags,
      name.toList.head?.any (fun c => !isBlank c && c != '!' && c != 's') = true := by decide
  have hhead := hall name h
  cases hname : name.toList with
  | nil => simp [hname] at hhead
  | cons c more => exact ⟨c, more, rfl, by simpa [hname, and_assoc] using hhead⟩

/-- A term begins with no blank. -/
theorem Term.Written.stops {t : Term} {w rest : Text} (h : t.Written w rest) (s : Text) :
    (w ++ s).Stops isBlank := by
  cases h with
  | atLeast | below | notTag => exact stops_cons_iff.mpr (by decide)
  | tag h =>
    obtain ⟨c, more, hname, hblank, -, -⟩ := exists_head_of_known h.known
    rw [hname]
    exact stops_cons_iff.mpr hblank

/-- A text is not behind a front that begins in another way. -/
theorem after?_eq_none_of_ne {f c : Char} (h : c ≠ f) (fs s : Text) :
    after? (f :: fs) (c :: s) = none := by
  rw [after?, if_neg (Ne.symm h)]

/-- Without its sign there is no negation. -/
theorem negation_of_ne {c : Char} (h : c ≠ '!') (s : Text) :
    negation (c :: s) = (false, c :: s) := by
  unfold negation
  split
  · rename_i heq
    exact absurd (List.cons.inj heq).1 h
  · rfl

/-- A tag with its negations is read if it is written there. -/
theorem tagTerm_eq_ok_iff {s rest : Text} {t : Term} :
    tagTerm s = .ok (t, rest) ↔
      ∃ name negated w, t = .tag name negated ∧ s = w ++ rest ∧ t.Written w rest := by
  constructor
  · intro h
    unfold tagTerm at h
    cases hneg : negation s with
    | mk negated tail =>
      rw [hneg] at h
      cases htag : tag? tail with
      | none => simp [htag] at h
      | some found =>
        obtain ⟨name, after⟩ := found
        simp only [htag, Except.ok.injEq, Prod.mk.injEq] at h
        obtain ⟨rfl, rfl⟩ := h
        obtain ⟨htail, hwhole⟩ := tag?_eq_some_iff.mp htag
        unfold negation at hneg
        split at hneg
        · -- After an exclamation mark and blanks.
          rename_i behind
          obtain ⟨rfl, rfl⟩ := Prod.mk.inj hneg
          obtain ⟨blanks, hblanks, hbehind, -⟩ := exists_blanks_append_trimStart behind
          refine ⟨name, true, '!' :: blanks ++ name.toList, rfl, ?_, .notTag hblanks hwhole⟩
          rw [List.cons_append, List.cons_append, List.append_assoc, ← htail, ← hbehind]
        · obtain ⟨rfl, rfl⟩ := Prod.mk.inj hneg
          exact ⟨name, false, name.toList, rfl, htail, .tag hwhole⟩
  · rintro ⟨name, negated, w, rfl, rfl, hwritten⟩
    unfold tagTerm
    cases hwritten with
    | tag h =>
      obtain ⟨c, more, hname, -, hmark, -⟩ := exists_head_of_known h.known
      have hneg : negation (name.toList ++ rest) = (false, name.toList ++ rest) := by
        rw [hname, List.cons_append, negation_of_ne hmark]
      simp only [hneg, tag?_eq_some_iff.mpr ⟨rfl, h⟩]
    | @notTag _ blanks _ hblanks h =>
      have hneg : negation ('!' :: blanks ++ name.toList ++ rest) =
          (true, name.toList ++ rest) := by
        have hstops := (Term.Written.tag h).stops rest
        rw [List.cons_append, List.cons_append, negation, List.append_assoc,
          trimStart_append_of_stops hblanks hstops]
      simp only [hneg, tag?_eq_some_iff.mpr ⟨rfl, h⟩]

/-- A term is read where one is written after blanks. -/
theorem term_eq_ok_iff {s rest : Text} {t : Term} :
    term s = .ok (t, rest) ↔ ∃ w, trimStart s = w ++ rest ∧ t.Written w rest := by
  constructor
  · intro h
    unfold term at h
    dsimp only at h
    split at h
    · -- A lower bound.
      rename_i behind hbehind
      cases hbound : boundModel behind with
      | error fault => simp [hbound, Except.map] at h
      | ok found =>
        simp only [hbound, Except.map, Except.ok.injEq, Prod.mk.injEq] at h
        obtain ⟨rfl, rfl⟩ := h
        obtain ⟨w, rfl, hwritten⟩ := boundModel_eq_ok_iff.mp hbound
        exact ⟨_, by rw [after?_eq_some_iff.mp hbehind, List.append_assoc], .atLeast hwritten⟩
    · split at h
      · -- An upper bound, which is refused if it is the oldest model.
        rename_i behind hbehind
        cases hbound : boundModel behind with
        | error fault => simp [hbound, bind, Except.bind] at h
        | ok found =>
          simp only [hbound, bind, Except.bind] at h
          split at h
          · cases h
          · rename_i hbelow
            simp only [pure, Except.pure, Except.ok.injEq, Prod.mk.injEq] at h
            obtain ⟨rfl, rfl⟩ := h
            obtain ⟨w, rfl, hwritten⟩ := boundModel_eq_ok_iff.mp hbound
            exact ⟨_, by rw [after?_eq_some_iff.mp hbehind, List.append_assoc],
              .below hwritten hbelow⟩
      · obtain ⟨-, -, w, -, hs, hwritten⟩ := tagTerm_eq_ok_iff.mp h
        exact ⟨w, hs, hwritten⟩
  · rintro ⟨w, hs, hwritten⟩
    unfold term
    dsimp only
    rw [hs]
    cases hwritten with
    | @atLeast m w _ h =>
      rw [List.append_assoc, after?_eq_some_iff.mpr rfl]
      simp only [boundModel_eq_ok_iff.mpr ⟨w, rfl, h⟩, Except.map]
    | @below m w _ h hbelow =>
      -- The two kinds of bounds differ in their third character.
      have hnone : after? "sm>=".toList ("sm<".toList ++ w ++ rest) = none := rfl
      rw [hnone, List.append_assoc, after?_eq_some_iff.mpr rfl]
      simp only [boundModel_eq_ok_iff.mpr ⟨w, rfl, h⟩, bind, Except.bind, if_neg hbelow]
      rfl
    | @tag name _ h =>
      obtain ⟨c, more, hname, -, -, hbound⟩ := exists_head_of_known h.known
      have hnone (fs : Text) : after? ('s' :: fs) (name.toList ++ rest) = none := by
        rw [hname, List.cons_append, after?_eq_none_of_ne hbound]
      have hread := tagTerm_eq_ok_iff.mpr ⟨name, false, _, rfl, rfl, .tag h⟩
      rw [show "sm>=".toList = 's' :: "m>=".toList from rfl, hnone,
        show "sm<".toList = 's' :: "m<".toList from rfl, hnone]
      exact hread
    | @notTag name blanks _ hblanks h =>
      exact tagTerm_eq_ok_iff.mpr ⟨name, true, _, rfl, rfl, .notTag hblanks h⟩

/-- The blanks around a term may be counted to it. -/
theorem term_spaced_iff {s rest : Text} {t : Term} (hrest : rest.Stops isBlank) :
    (∃ behind, term s = .ok (t, behind) ∧ trimStart behind = rest) ↔
      ∃ w, s = w ++ rest ∧ t.Spaced w rest := by
  constructor
  · rintro ⟨behind, hterm, rfl⟩
    obtain ⟨core, hs, hwritten⟩ := term_eq_ok_iff.mp hterm
    obtain ⟨before, hbefore, hfront, -⟩ := exists_blanks_append_trimStart s
    obtain ⟨after, hafter, hback, -⟩ := exists_blanks_append_trimStart behind
    refine ⟨before ++ core ++ after, ?_, before, core, after, rfl, hbefore, hafter, ?_⟩
    · rw [List.append_assoc, ← hback, List.append_assoc, ← hs, ← hfront]
    · rwa [← hback]
  · rintro ⟨w, rfl, before, core, after, rfl, hbefore, hafter, hwritten⟩
    refine ⟨after ++ rest, term_eq_ok_iff.mpr ⟨core, ?_, hwritten⟩,
      trimStart_append_of_stops hafter hrest⟩
    rw [List.append_assoc, List.append_assoc,
      trimStart_append_of_stops hbefore (hwritten.stops _)]

/-! ## Conjunctions and disjunctions -/

/-- The ways to write a conjunction in front of a text: terms with ampersands between them. -/
inductive Conjunction.Written : List Term → Text → Text → Prop
  | last {t : Term} {w rest : Text} (h : t.Spaced w rest) : Written [t] w rest
  | more {t : Term} {ts : List Term} {w more rest : Text} (h : t.Spaced w ('&' :: (more ++ rest)))
      (hmore : Written ts more rest) : Written (t :: ts) (w ++ '&' :: more) rest

/-- The ways to write an expression in front of a text: conjunctions with bars between
    them. -/
inductive QualifierExpr.Written : QualifierExpr → Text → Text → Prop
  | last {ts : List Term} {w rest : Text} (h : Conjunction.Written ts w rest) : Written [ts] w rest
  | more {ts : List Term} {e : QualifierExpr} {w more rest : Text}
      (h : Conjunction.Written ts w ('|' :: (more ++ rest))) (hmore : Written e more rest) :
      Written (ts :: e) (w ++ '|' :: more) rest

/-- A character is missing if the text stops before it. -/
theorem after?_singleton_eq_none_iff {c : Char} {s : Text} :
    after? [c] s = none ↔ s.Stops (· == c) := by
  cases s with
  | nil => simp [after?, Text.Stops]
  | cons d s =>
    rw [stops_cons_iff, beq_eq_false_iff_ne]
    simp [after?, eq_comm]

/-- A conjunction goes on after an ampersand behind its first term. -/
theorem conjunction_of_more {s behind more : Text} {t : Term} (hterm : term s = .ok (t, behind))
    (hmore : trimStart behind = '&' :: more) :
    conjunction s = (conjunction more).map fun (ts, rest) => (t :: ts, rest) := by
  have hsome : after? ['&'] (trimStart behind) = some more := after?_eq_some_iff.mpr hmore
  rw [conjunction]
  split <;> rename_i hread <;> cases hterm.symm.trans hread
  split <;> rename_i hafter <;> cases hsome.symm.trans hafter
  rfl

/-- A term without a sign behind it ends its conjunction. -/
theorem conjunction_of_last {s behind : Text} {t : Term} (hterm : term s = .ok (t, behind))
    (hlast : (trimStart behind).Stops (· == '&')) :
    conjunction s = .ok ([t], trimStart behind) := by
  have hnone : after? ['&'] (trimStart behind) = none := after?_singleton_eq_none_iff.mpr hlast
  rw [conjunction]
  split <;> rename_i hread <;> cases hterm.symm.trans hread
  split
  · rename_i hsome
    cases hnone.symm.trans hsome
  · rfl

/-- A conjunction is read up to what is neither a blank nor an ampersand. -/
theorem conjunction_eq_ok_iff {s rest : Text} {ts : List Term} :
    conjunction s = .ok (ts, rest) ↔ rest.Stops isBlank ∧ rest.Stops (· == '&') ∧
      ∃ w, s = w ++ rest ∧ Conjunction.Written ts w rest := by
  constructor
  · intro h
    fun_induction conjunction s generalizing ts with
    | case1 => cases h
    | case2 s t behind hterm more hmore ih =>
      -- A term, an ampersand and the other terms.
      cases hrec : conjunction more with
      | error fault => simp [hrec, Except.map] at h
      | ok found =>
        simp only [hrec, Except.map, Except.ok.injEq, Prod.mk.injEq] at h
        obtain ⟨rfl, rfl⟩ := h
        obtain ⟨hblank, hand, tail, rfl, hwritten⟩ := ih hrec
        have hbehind : trimStart behind = '&' :: (tail ++ found.2) := after?_eq_some_iff.mp hmore
        have hstops : Text.Stops isBlank ('&' :: (tail ++ found.2)) :=
          stops_cons_iff.mpr (by decide)
        obtain ⟨w, rfl, hspaced⟩ := (term_spaced_iff hstops).mp ⟨behind, hterm, hbehind⟩
        exact ⟨hblank, hand, w ++ '&' :: tail, by simp, .more hspaced hwritten⟩
    | case3 s t behind hterm hmore =>
      -- The last term.
      obtain ⟨rfl, rfl⟩ := Prod.mk.inj (Except.ok.inj h)
      have hblank : (trimStart behind).Stops isBlank := stops_dropWhile _ _
      obtain ⟨w, rfl, hspaced⟩ := (term_spaced_iff hblank).mp ⟨behind, hterm, rfl⟩
      exact ⟨hblank, after?_singleton_eq_none_iff.mp hmore, w, rfl, .last hspaced⟩
  · rintro ⟨hblank, hand, w, rfl, hwritten⟩
    induction hwritten with
    | last hspaced =>
      obtain ⟨behind, hterm, rfl⟩ := (term_spaced_iff hblank).mpr ⟨_, rfl, hspaced⟩
      exact conjunction_of_last hterm hand
    | @more t ts w more rest hspaced _ ih =>
      have hstops : Text.Stops isBlank ('&' :: (more ++ rest)) := stops_cons_iff.mpr (by decide)
      obtain ⟨behind, hterm, hbehind⟩ := (term_spaced_iff hstops).mpr ⟨_, rfl, hspaced⟩
      rw [List.append_assoc, List.cons_append, conjunction_of_more hterm hbehind, ih hblank hand]
      rfl

/-- An expression goes on after a bar behind its first conjunction. -/
theorem disjunction_of_more {s more : Text} {ts : List Term}
    (hread : conjunction s = .ok (ts, '|' :: more)) :
    disjunction s = (disjunction more).map fun (e, rest) => (ts :: e, rest) := by
  rw [disjunction]
  split <;> rename_i hread' <;> cases hread.symm.trans hread'
  split <;> rename_i hafter <;> cases hafter
  rfl

/-- A bracket ends a disjunction. -/
theorem disjunction_of_last {s rest : Text} {ts : List Term}
    (hread : conjunction s = .ok (ts, ')' :: rest)) : disjunction s = .ok ([ts], rest) := by
  rw [disjunction]
  split <;> rename_i hread' <;> cases hread.symm.trans hread'
  rfl

/-- An expression is read up to a closing parenthesis. -/
theorem disjunction_eq_ok_iff {s rest : Text} {e : QualifierExpr} :
    disjunction s = .ok (e, rest) ↔ ∃ w, s = w ++ ')' :: rest ∧ e.Written w (')' :: rest) := by
  constructor
  · intro h
    fun_induction disjunction s generalizing e with
    | case1 => cases h
    | case2 s ts behind hread more hmore ih =>
      -- A conjunction, a bar and the other conjunctions.
      cases hrec : disjunction more with
      | error fault => simp [hrec, Except.map] at h
      | ok found =>
        simp only [hrec, Except.map, Except.ok.injEq, Prod.mk.injEq] at h
        obtain ⟨rfl, rfl⟩ := h
        obtain ⟨tail, rfl, hwritten⟩ := ih hrec
        obtain rfl : behind = '|' :: (tail ++ ')' :: found.2) := after?_eq_some_iff.mp hmore
        obtain ⟨-, -, w, rfl, hconjunction⟩ := conjunction_eq_ok_iff.mp hread
        exact ⟨w ++ '|' :: tail, by simp, .more hconjunction hwritten⟩
    | case3 s ts behind hread hmore behind' hclose =>
      -- The last conjunction and the parenthesis.
      obtain ⟨rfl, rfl⟩ := Prod.mk.inj (Except.ok.inj h)
      obtain rfl : behind = ')' :: behind' := after?_eq_some_iff.mp hclose
      obtain ⟨-, -, w, rfl, hconjunction⟩ := conjunction_eq_ok_iff.mp hread
      exact ⟨w, rfl, .last hconjunction⟩
    | case4 => cases h
  · rintro ⟨w, rfl, hwritten⟩
    have hstops {p : Char → Bool} {c : Char} {more : Text} (hc : p c = false) :
        Text.Stops p (c :: more) := stops_cons_iff.mpr hc
    generalize hclose : ')' :: rest = behind at hwritten
    induction hwritten with
    | last hconjunction =>
      subst hclose
      exact disjunction_of_last (conjunction_eq_ok_iff.mpr
        ⟨hstops (by decide), hstops (by decide), _, rfl, hconjunction⟩)
    | @more ts e w more behind hconjunction _ ih =>
      subst hclose
      have hread := conjunction_eq_ok_iff.mpr
        ⟨hstops (by decide), hstops (by decide), _, rfl, hconjunction⟩
      rw [List.append_assoc, List.cons_append, disjunction_of_more hread, ih rfl]
      rfl

/-- What is read as an expression is what is written in parentheses. -/
theorem expression_eq_ok_iff {s rest : Text} {e : QualifierExpr} :
    expression s = .ok (e, rest) ↔
      ∃ w, s = '(' :: w ++ ')' :: rest ∧ e.Written w (')' :: rest) := by
  unfold expression
  constructor
  · intro h
    split at h
    · rename_i inner hopen
      obtain ⟨w, rfl, hwritten⟩ := disjunction_eq_ok_iff.mp h
      exact ⟨w, (after?_eq_some_iff.mp hopen : s = ['('] ++ _), hwritten⟩
    · cases h
  · rintro ⟨w, rfl, hwritten⟩
    have hopen : after? ['('] ('(' :: w ++ ')' :: rest) = some (w ++ ')' :: rest) :=
      after?_eq_some_iff.mpr rfl
    rw [hopen]
    exact disjunction_eq_ok_iff.mpr ⟨w, rfl, hwritten⟩

/-! ## Meanings -/

namespace Term

/-- Whether a model lies within a bound; a tag bounds no models. -/
def Admits (m : ShaderModel) : Term → Prop
  | atLeast bound => bound ≤ m
  | below bound => m < bound
  | tag _ _ => True

/-- Whether a runner has a tag, or lacks it if the tag is negated; a bound asks for no tag. -/
def Agrees (tags : List String) : Term → Prop
  | tag name false => name ∈ tags
  | tag name true => name ∉ tags
  | atLeast _ | below _ => True

/-- The truth of a term: of a bound for the lowest model, and of a tag for the runner. -/
def Holds (context : QualifierContext) : Term → Prop
  | atLeast bound => bound ≤ context.minimumModel
  | below bound => context.minimumModel < bound
  | tag name false => name ∈ context.tags
  | tag name true => name ∉ context.tags

/-- The mask of a term has the models that the term admits. -/
theorem contains_models_iff {t : Term} {m : ShaderModel} :
    t.models.contains m = true ↔ t.Admits m := by
  cases t <;> simp [models, Admits]

/-- A term agrees with the tags that it names. -/
theorem agrees_iff {t : Term} {tags : List String} : t.agrees tags = true ↔ t.Agrees tags := by
  cases t with
  | atLeast | below => simp [agrees, Agrees]
  | tag name negated => cases negated <;> simp [agrees, Agrees]

/-- A term holds if its comparison does. -/
theorem holds_iff {t : Term} {context : QualifierContext} :
    t.holds context = true ↔ t.Holds context := by
  cases t with
  | atLeast | below => simp [holds, Holds]
  | tag name negated => cases negated <;> simp [holds, Holds]

end Term

namespace QualifierExpr

/-- The mask of a conjunction has the models that all terms admit. -/
theorem contains_conjunctionModels_iff {ts : List Term} {m : ShaderModel} :
    (conjunctionModels ts).contains m = true ↔ ∀ t ∈ ts, t.Admits m := by
  induction ts with
  | nil => simp [conjunctionModels]
  | cons t ts ih =>
    rw [conjunctionModels, List.foldr_cons, ← conjunctionModels, ModelMask.contains_and,
      Bool.and_eq_true, Term.contains_models_iff, ih, List.forall_mem_cons]

/-- The mask of an expression has the models that some conjunction admits. -/
theorem contains_models_iff {e : QualifierExpr} {m : ShaderModel} :
    (models e).contains m = true ↔ ∃ ts ∈ e, ∀ t ∈ ts, t.Admits m := by
  induction e with
  | nil => simp [models]
  | cons ts e ih =>
    rw [models, List.foldr_cons, ← models, ModelMask.contains_or, Bool.or_eq_true,
      contains_conjunctionModels_iff, ih]
    simp

/-- What an evaluated qualifier says of an expression. -/
structure Evaluates (context : QualifierContext) (e : QualifierExpr) (q : Qualifier) : Prop where
  holds : q.holds = true ↔ ∃ ts ∈ e, ∀ t ∈ ts, t.Holds context
  models : ∀ m, q.models.contains m = true ↔ ∃ ts ∈ e, ∀ t ∈ ts, t.Admits m
  gated : ∀ m, q.gated.contains m = true ↔
    ∃ ts ∈ e, (∀ t ∈ ts, t.Agrees context.tags) ∧ ∀ t ∈ ts, t.Admits m

/-- An expression evaluates to what its comparisons say. -/
theorem evaluates_evaluate (context : QualifierContext) (e : QualifierExpr) :
    Evaluates context e (e.evaluate context) where
  holds := by simp [evaluate, Term.holds_iff]
  models m := contains_models_iff
  gated m := by simp [evaluate, agreeing, contains_models_iff, Term.agrees_iff, and_assoc]

/-- An expression has one value. -/
theorem Evaluates.unique {context : QualifierContext} {e : QualifierExpr} {q q' : Qualifier}
    (h : Evaluates context e q) (h' : Evaluates context e q') : q = q' := by
  obtain ⟨holds, models, gated⟩ := q
  obtain ⟨holds', models', gated'⟩ := q'
  have hholds : holds = holds' := Bool.eq_iff_iff.mpr (h.holds.trans h'.holds.symm)
  have hmodels : models = models' :=
    ModelMask.ext_contains fun m => Bool.eq_iff_iff.mpr ((h.models m).trans (h'.models m).symm)
  have hgated : gated = gated' :=
    ModelMask.ext_contains fun m => Bool.eq_iff_iff.mpr ((h.gated m).trans (h'.gated m).symm)
  rw [hholds, hmodels, hgated]

end QualifierExpr

/-- A qualifier is read off the front of a text if and only if an expression is written
    there in parentheses, and its value is that of the expression: the truth of some
    conjunction, the models within all bounds of some conjunction, and those of a
    conjunction that agrees with the tags. -/
theorem qualifier_read_eq_ok_iff {context : QualifierContext} {s rest : Text} {q : Qualifier} :
    Qualifier.read context s = .ok (q, rest) ↔
      ∃ e w, s = '(' :: w ++ ')' :: rest ∧ QualifierExpr.Written e w (')' :: rest) ∧
        QualifierExpr.Evaluates context e q := by
  rw [Qualifier.read]
  constructor
  · intro h
    cases hread : expression s with
    | error fault => simp [hread, Except.map] at h
    | ok found =>
      simp only [hread, Except.map, Except.ok.injEq, Prod.mk.injEq] at h
      obtain ⟨rfl, rfl⟩ := h
      obtain ⟨w, hs, hwritten⟩ := expression_eq_ok_iff.mp hread
      exact ⟨found.1, w, hs, hwritten, QualifierExpr.evaluates_evaluate context found.1⟩
  · rintro ⟨e, w, hs, hwritten, hevaluates⟩
    have hvalue := (QualifierExpr.evaluates_evaluate context e).unique hevaluates
    rw [expression_eq_ok_iff.mpr ⟨w, hs, hwritten⟩, ← hvalue]
    rfl

end ShaderConformance
