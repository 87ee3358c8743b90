import ShaderConformance.Proofs.QualifierUse

/-!
# Chains of qualifiers

A test line is a command behind a chain of qualifiers.  Each step of reading takes one qualifier
off the line, and the chain may end early: a condition that does not hold ends it whatever the
rest of the line is.  So the line is read by what the qualifiers say, and not by their order.

## Main definitions

- `TestLine.Mark`: a qualifier with its truth, and the ways to write it
- `TestLine.BeginsCommand`: a text that no keyword of a qualifier begins
- `TestLine.anyHolds`: whether some qualifier of a kind holds

## Main statements

- `TestLine.readWith_mark`: what reading one qualifier comes to
- `TestLine.readWith_marks`: what reading a chain comes to
- `TestLine.read_of_marks`: a line is read by what its qualifiers say
-/

namespace ShaderConformance

open Text

/-! ## Blanks before a command -/

/-- Blanks at the start do not change a command. -/
theorem Command.read_trimStart (line : Text) : read (trimStart line) = read line := by
  rw [read, read, trim_trimStart]
  simp only [keyword?_trimStart]

namespace TestLine

variable {context : QualifierContext} {todo bug : Bool}

theorem effect?_trimStart (line : Text) :
    effect? context (trimStart line) = effect? context line := by
  have hkeyword : ∀ keyword ∈ ["todo", "bug"], qualifiedKeyword context (trimStart line) keyword =
      qualifiedKeyword context line keyword := by
    intro keyword hmem
    have hk : IsKeyword keyword.toList := by
      revert keyword
      decide
    rw [qualifiedKeyword_eq_ite hk, qualifiedKeyword_eq_ite hk, leadingWord_trimStart,
      behindWord_trimStart]
  have hcondition : condition? context (trimStart line) = condition? context line := by
    rw [condition?, condition?, trimStart_trimStart, keyword?_trimStart]
  rw [effect?, effect?, hcondition]
  simp only [firstQualified, hkeyword "todo" (by simp), hkeyword "bug" (by simp)]

/-- How a line is read does not depend on blanks before it. -/
theorem readWith_trimStart (line : Text) :
    readWith context todo bug (trimStart line) = readWith context todo bug line := by
  rw [readWith_eq, effect?_trimStart, Command.read_trimStart, ← readWith_eq]

/-! ## Chains -/

/-- A qualifier in front of a command, with its truth. -/
structure Mark where
  effect : Effect
  holds : Bool
deriving DecidableEq

/-- The ways to write a qualifier.  A condition is not written without an expression. -/
inductive Mark.Written (context : QualifierContext) : Mark → Text → Prop
  | mk {effect : Effect} {q : Qualifier} {w : Text} (h : Qualified context effect.keyword q w)
      (hcondition : effect = .condition → w ≠ effect.keyword) :
      Written context ⟨effect, q.holds⟩ w

/-- A condition that does not hold. -/
def Mark.unmet : Mark := ⟨.condition, false⟩

/-- Whether some qualifier of a kind holds. -/
def anyHolds (effect : Effect) (marks : List Mark) : Bool :=
  marks.any fun mark => decide (mark.effect = effect) && mark.holds

/-- A text that does not begin with the keyword of a qualifier. -/
def BeginsCommand (text : Text) : Prop := ∀ effect : Effect, leadingWord text ≠ effect.keyword

variable {mark : Mark} {marks : List Mark} {w gap text line rest : Text}

/-- A qualifier is taken off the line, and what it says is remembered. -/
theorem readWith_mark (hmark : mark.Written context w) (hgap : gap.Separates w text) :
    readWith context todo bug (w ++ gap ++ text) =
      if mark = .unmet then .ok none
      else readWith context (todo || anyHolds .todo [mark]) (bug || anyHolds .bug [mark]) text := by
  obtain ⟨hqualified, hcondition⟩ := hmark
  rename_i effect q
  obtain ⟨hleading, hread, hopen⟩ := hqualified.reads effect.isKeyword hgap
  have heffect : effect? context (w ++ gap ++ text) = .ok (some (effect, q, trimStart text)) :=
    effect?_of_leadingWord hleading hread fun h => hopen (hcondition h)
  cases effect with
  | todo =>
    rw [readWith_todo heffect, readWith_trimStart]
    simp [Mark.unmet, anyHolds]
  | bug =>
    rw [readWith_bug heffect, readWith_trimStart]
    simp [Mark.unmet, anyHolds]
  | condition =>
    rw [readWith_condition heffect, readWith_trimStart]
    cases q.holds <;> simp [Mark.unmet, anyHolds]

/-- A chain is taken off the line, unless one of its conditions does not hold. -/
theorem readWith_marks (h : Spaced (Mark.Written context) marks line rest) :
    readWith context todo bug line =
      if .unmet ∈ marks then .ok none
      else readWith context (todo || anyHolds .todo marks) (bug || anyHolds .bug marks) rest := by
  induction h generalizing todo bug with
  | nil rest => simp [anyHolds]
  | @cons mark marks w gap text rest hmark hgap _ ih =>
    rw [readWith_mark hmark hgap]
    by_cases hunmet : mark = .unmet
    · rw [if_pos hunmet, if_pos (hunmet ▸ List.mem_cons_self)]
    · have hmem : .unmet ∈ mark :: marks ↔ .unmet ∈ marks := by
        rw [List.mem_cons, or_iff_right (Ne.symm hunmet)]
      simp only [if_neg hunmet, ih, hmem, anyHolds, List.any_cons, List.any_nil, Bool.or_false,
        Bool.or_assoc]

/-- The order of marks does not matter for whether one holds. -/
theorem anyHolds_perm {effect : Effect} {marks' : List Mark} (h : marks'.Perm marks) :
    anyHolds effect marks' = anyHolds effect marks :=
  h.any_eq

/-- A line is a chain of qualifiers in front of a text.  If a condition among them does not hold,
    the line does not count, whatever the text is.  Otherwise, in front of a text that begins a
    command, the command is what counts, with what the qualifiers say together; so it is the same
    in whatever order and with whatever blanks they are written. -/
theorem read_of_marks (h : Spaced (Mark.Written context) marks line rest) {before : Text}
    (hbefore : before.Blanks) :
    (.unmet ∈ marks → read context (before ++ line) = .ok none) ∧
    (.unmet ∉ marks → BeginsCommand rest →
      read context (before ++ line) = (Command.read rest).map fun command =>
        some ⟨anyHolds .todo marks, anyHolds .bug marks, command⟩) ∧
    (.unmet ∉ marks → BeginsCommand rest → ∀ marks' line', marks'.Perm marks →
      Spaced (Mark.Written context) marks' line' rest →
        read context line' = read context (before ++ line)) := by
  -- Blanks at the start of a line are no part of its marks.
  have htrim : read context (before ++ line) = readWith context false false line := by
    rw [read, ← readWith_trimStart, trimStart_append_of_blanks hbefore, readWith_trimStart]
  -- Marks that are all met leave the command, under the marks that hold.
  have hcommand {marks : List Mark} {line : Text}
      (h : Spaced (Mark.Written context) marks line rest) (hmet : .unmet ∉ marks)
      (hbegins : BeginsCommand rest) :
      readWith context false false line = (Command.read rest).map fun command =>
        some ⟨anyHolds .todo marks, anyHolds .bug marks, command⟩ := by
    rw [readWith_marks h, if_neg hmet, Bool.false_or, Bool.false_or,
      readWith_command (effect?_of_forall_ne hbegins)]
  refine ⟨?_, ?_, ?_⟩
  · intro hunmet
    rw [htrim, readWith_marks h, if_pos hunmet]
  · intro hmet hbegins
    rw [htrim, hcommand h hmet hbegins]
  · -- Whether some mark holds does not depend on their order.
    intro hmet hbegins marks' line' hperm h'
    have hmet' : .unmet ∉ marks' := fun hmem => hmet (hperm.mem_iff.mp hmem)
    rw [htrim, read, hcommand h hmet hbegins, hcommand h' hmet' hbegins, anyHolds_perm hperm,
      anyHolds_perm hperm]

/-- A runner without tags, and with a range from model 4.0 on. -/
def untagged : QualifierContext := ⟨.sm4_0, []⟩

/-- A mark is written with its keyword and its qualifier. -/
theorem written_expression {effect : Effect} {s : Text} {q : Qualifier}
    (h : Qualifier.read context s = .ok (q, [])) (hne : s ≠ []) :
    Mark.Written context ⟨effect, q.holds⟩ (effect.keyword ++ s) :=
  .mk (.expression h) fun _ => by simpa using hne

/-- Three qualifiers hold or not, whatever their order and their blanks, and a condition that does
    not hold leaves out a line that could not be read. -/
theorem read_of_marks_shuffled :
    BeginsCommand "draw quad".toList ∧
    read untagged "\ttodo(sm<4.0)bug  if(!warp)draw quad".toList =
      .ok (some ⟨false, true, .drawQuad⟩) ∧
    read untagged "if(!warp)todo(sm<4.0) bug draw quad".toList =
      read untagged "\ttodo(sm<4.0)bug  if(!warp)draw quad".toList ∧
    read untagged "bug if(warp))if( of".toList = .ok none := by
  -- The four marks as they are written.
  have htodo : Mark.Written untagged ⟨.todo, false⟩ "todo(sm<4.0)".toList :=
    written_expression (q := ⟨false, .ofBits 3, .ofBits 3⟩) (by decide +kernel) (by decide)
  have hbug : Mark.Written untagged ⟨.bug, true⟩ "bug".toList := .mk .bare nofun
  have hif : Mark.Written untagged ⟨.condition, true⟩ "if(!warp)".toList :=
    written_expression (q := .always) (by decide +kernel) (by decide)
  have hunmet : Mark.Written untagged .unmet "if(warp)".toList :=
    written_expression (q := ⟨false, .all, .empty⟩) (by decide +kernel) (by decide)
  have hnone : Text.Blanks [] := nofun
  have hblank : Text.Blanks [' '] := by decide
  have hblanks : Text.Blanks "  ".toList := by decide
  have htab : Text.Blanks ['\t'] := by decide
  have hdraw : BeginsCommand "draw quad".toList := by
    intro effect
    cases effect <;> decide
  -- The line in its own order, and the same marks in another.
  have hline : Spaced (Mark.Written untagged) [⟨.todo, false⟩, ⟨.bug, true⟩, ⟨.condition, true⟩]
      "todo(sm<4.0)bug  if(!warp)draw quad".toList "draw quad".toList := by
    have hparts : "todo(sm<4.0)bug  if(!warp)draw quad".toList = "todo(sm<4.0)".toList ++ [] ++
        ("bug".toList ++ "  ".toList ++ ("if(!warp)".toList ++ [] ++ "draw quad".toList)) := by
      decide +kernel
    rw [hparts]
    exact .cons htodo ⟨hnone, fun _ => .inl (by decide)⟩ (.cons hbug ⟨hblanks, nofun⟩
      (.cons hif ⟨hnone, fun _ => .inl (by decide)⟩ (.nil _)))
  have hline' : Spaced (Mark.Written untagged) [⟨.condition, true⟩, ⟨.todo, false⟩, ⟨.bug, true⟩]
      "if(!warp)todo(sm<4.0) bug draw quad".toList "draw quad".toList := by
    have hparts : "if(!warp)todo(sm<4.0) bug draw quad".toList = "if(!warp)".toList ++ [] ++
        ("todo(sm<4.0)".toList ++ [' '] ++ ("bug".toList ++ [' '] ++ "draw quad".toList)) := by
      decide +kernel
    rw [hparts]
    exact .cons hif ⟨hnone, fun _ => .inl (by decide)⟩
      (.cons htodo ⟨hblank, nofun⟩ (.cons hbug ⟨hblank, nofun⟩ (.nil _)))
  -- A mark that is not met ends the reading, whatever stands behind it.
  have hskipped : Spaced (Mark.Written untagged) [⟨.bug, true⟩, .unmet]
      "bug if(warp))if( of".toList ")if( of".toList := by
    have hparts : "bug if(warp))if( of".toList =
        "bug".toList ++ [' '] ++ ("if(warp)".toList ++ [] ++ ")if( of".toList) := by
      decide +kernel
    rw [hparts]
    exact .cons hbug ⟨hblank, nofun⟩
      (.cons hunmet ⟨hnone, fun _ => .inl (by decide)⟩ (.nil _))
  have hbefore : "\ttodo(sm<4.0)bug  if(!warp)draw quad".toList =
      ['\t'] ++ "todo(sm<4.0)bug  if(!warp)draw quad".toList := by decide +kernel
  have hcommand : Command.read "draw quad".toList = .ok .drawQuad := by decide +kernel
  obtain ⟨-, hread, hshuffled⟩ := read_of_marks hline htab
  obtain ⟨hnothing, -, -⟩ := read_of_marks hskipped hnone
  rw [hbefore]
  refine ⟨hdraw, ?_, hshuffled (by decide) hdraw _ _ (by decide) hline', hnothing (by decide)⟩
  rw [hread (by decide) hdraw, hcommand]
  rfl

end TestLine

end ShaderConformance
