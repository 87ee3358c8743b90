import ShaderConformance.Command.Reading
import ShaderConformance.Proofs.LineItems
import ShaderConformance.Shader.Header

/-!
# Qualifiers of test lines and of shader headers

A test line asks whether its qualifier holds for the lowest model of the current range.  The
header of a shader block asks for which models it applies.  The two answers come from
different parts of an evaluated qualifier; this file shows that they are the same question.

## Main definitions

- `ReadsAlike`: what a qualifier text means on every line and in every header

## Main statements

- `TestLine.effect?_of_leadingWord`: the leading word says which qualifier a line begins with
- `holds_evaluate`: the truth at a model is membership in the gated set
- `ShaderHeader.read_eq_of_tags`: a header does not depend on the range of models
- `readsAlike_of_read`: every qualifier text is read alike in both places
-/

namespace ShaderConformance

open Text

/-! ## Truth and membership -/

/-- A term holds where the tags agree and the lowest model lies within its bound. -/
theorem Term.holds_eq (t : Term) (m : ShaderModel) (tags : List String) :
    t.Holds ⟨m, tags⟩ ↔ t.Agrees tags ∧ t.Admits m := by
  cases t with
  | atLeast | below => simp [Holds, Agrees, Admits]
  | tag name negated => cases negated <;> simp [Holds, Agrees, Admits]

/-- Comparing a bound with the lowest model comes to looking the model up in the mask. -/
theorem Term.holds_eq_mask (t : Term) (m : ShaderModel) (tags : List String) :
    t.holds ⟨m, tags⟩ = (t.agrees tags && t.models.contains m) := by
  rw [Bool.eq_iff_iff, Bool.and_eq_true, holds_iff, holds_eq, agrees_iff, contains_models_iff]

namespace QualifierExpr

variable (e : QualifierExpr) (m m' : ShaderModel) (tags : List String)

/-- An expression holds for a lowest model if the model is in its gated set, which is the
    same whatever the lowest model is. -/
theorem holds_evaluate :
    (e.evaluate ⟨m, tags⟩).holds = (e.evaluate ⟨m', tags⟩).gated.contains m := by
  apply Bool.eq_iff_iff.mpr
  rw [(evaluates_evaluate ⟨m, tags⟩ e).holds, (evaluates_evaluate ⟨m', tags⟩ e).gated m]
  simp only [Term.holds_eq, forall_and]

/-- The models that hold under the tags are among all of an expression. -/
theorem contains_models_of_gated (h : (e.evaluate ⟨m', tags⟩).gated.contains m = true) :
    (e.evaluate ⟨m', tags⟩).models.contains m = true := by
  obtain ⟨ts, hts, -, hadmits⟩ := ((evaluates_evaluate ⟨m', tags⟩ e).gated m).mp h
  exact ((evaluates_evaluate ⟨m', tags⟩ e).models m).mpr ⟨ts, hts, hadmits⟩

end QualifierExpr

/-! ## Qualifiers of a line -/

/-- The keyword of a qualifier in front of a command. -/
def TestLine.Effect.keyword : TestLine.Effect → Text
  | .todo => "todo".toList
  | .bug => "bug".toList
  | .condition => "if".toList

namespace TestLine

variable {c : QualifierContext} {line rest : Text} {effect : Effect} {q : Qualifier}

/-- An effect is named by a keyword. -/
theorem Effect.isKeyword (effect : Effect) : effect.keyword.IsKeyword := by
  cases effect <;> decide

/-- No effect is named as another one. -/
theorem isKeywordTable_effects :
    IsKeywordTable [("todo", Effect.todo), ("bug", Effect.bug)] := by decide

/-- Without their keywords in front there is no qualifier but a condition. -/
theorem effect?_of_ne (htodo : leadingWord line ≠ Effect.todo.keyword)
    (hbug : leadingWord line ≠ Effect.bug.keyword) : effect? c line = condition? c line := by
  rw [effect?, firstQualified_of_ne isKeywordTable_effects]
  simp only [List.forall_mem_cons]
  exact ⟨htodo, hbug, nofun⟩

/-- A qualifier is read if its keyword is the leading word. -/
theorem effect?_of_leadingWord (hleading : leadingWord line = effect.keyword)
    (hread : qualifierBehind c (behindWord line) = .ok (q, rest))
    (hopen : effect = .condition → (behindWord line).head? = some '(') :
    effect? c line = .ok (some (effect, q, rest)) := by
  -- The marks share one table of keywords; only a condition has its own reader.
  have hmark {keyword : String} {effect : Effect}
      (hmem : (keyword, effect) ∈ [("todo", Effect.todo), ("bug", Effect.bug)])
      (hleading : leadingWord line = keyword.toList) :
      effect? c line = .ok (some (effect, q, rest)) := by
    rw [effect?, firstQualified_of_mem isKeywordTable_effects hmem hleading, hread]
    rfl
  cases effect with
  | todo => exact hmark List.mem_cons_self hleading
  | bug => exact hmark (List.mem_cons_of_mem _ List.mem_cons_self) hleading
  | condition =>
    have hline : after? "if".toList (trimStart line) = some (behindWord line) := by
      rw [after?_eq_some_iff, ← leadingWord_append_behindWord, hleading]
      rfl
    rw [qualifierBehind, if_pos (hopen rfl)] at hread
    rw [effect?_of_ne (by rw [hleading]; decide) (by rw [hleading]; decide), condition?, hline]
    dsimp only
    rw [if_pos (hopen rfl)]
    obtain ⟨found, hfound, hresult⟩ := map_eq_ok_iff.mp hread
    obtain ⟨rfl, rfl⟩ := Prod.mk.inj hresult
    rw [hfound]
    rfl

/-- Without the keyword of a qualifier in front there is none. -/
theorem effect?_of_forall_ne (hfree : ∀ effect : Effect, leadingWord line ≠ effect.keyword) :
    effect? c line = .ok none := by
  rw [effect?_of_ne (hfree .todo) (hfree .bug), condition?]
  split
  · rfl
  · rename_i behind hafter
    have hline := after?_eq_some_iff.mp hafter
    -- Text behind the letters of a condition that do not end the word.
    have hboundary : ¬ behind.AtBoundary := by
      intro hboundary
      apply hfree .condition
      rw [← leadingWord_trimStart, hline]
      exact (leadingWord_append Effect.condition.isKeyword hboundary).1
    -- A parenthesis would end it.
    have hhead : behind.head? ≠ some '(' := by
      intro hhead
      apply hboundary
      intro d hd
      obtain rfl := Option.some.inj (hhead.symm.trans hd)
      decide
    have hif : keyword? line "if" = none :=
      (keyword?_eq Effect.condition.isKeyword line).trans (if_neg (hfree .condition))
    rw [if_neg hhead, hif]
    rfl

end TestLine

/-- The items of a header that carry a qualifier are told apart by their keywords. -/
theorem ShaderHeader.isKeywordTable_qualifiedItems : IsKeywordTable qualifiedItems := by decide

/-- An item with a qualifier is found by its keyword. -/
theorem ShaderHeader.item_of_keyword {c : QualifierContext} {keyword : String} {line : Text}
    {make : Qualifier → Item} (hmem : (keyword, make) ∈ qualifiedItems)
    (hleading : leadingWord line = keyword.toList) : item c line =
      (qualifierBehind c (behindWord line)).map fun (q, rest) => (make q, rest) := by
  rw [item, firstQualified_of_mem isKeywordTable_qualifiedItems hmem hleading]
  cases qualifierBehind c (behindWord line) <;> rfl

section Keywords

variable {s rest : Text} {e : QualifierExpr} (h : expression (s ++ rest) = .ok (e, rest))
  (c : QualifierContext) (line : Text)

include h

/-- An effect is read with the expression behind it, evaluated. -/
theorem effect?_expression (effect : TestLine.Effect) :
    TestLine.effect? c (effect.keyword ++ s ++ line) =
      .ok (some (effect, e.evaluate c, trimStart line)) := by
  obtain ⟨hleading, hhead, hread⟩ := qualifierBehind_expression h c line effect.isKeyword
  exact TestLine.effect?_of_leadingWord hleading hread fun _ => hhead

/-- A mark of what is to do is read with its expression. -/
theorem effect?_todo : TestLine.effect? c ("todo".toList ++ s ++ line) =
    .ok (some (.todo, e.evaluate c, trimStart line)) :=
  effect?_expression h c line .todo

/-- A mark of a known bug is read with its expression. -/
theorem effect?_bug : TestLine.effect? c ("bug".toList ++ s ++ line) =
    .ok (some (.bug, e.evaluate c, trimStart line)) :=
  effect?_expression h c line .bug

/-- A condition is read with its expression. -/
theorem effect?_condition : TestLine.effect? c ("if".toList ++ s ++ line) =
    .ok (some (.condition, e.evaluate c, trimStart line)) :=
  effect?_expression h c line .condition

/-- A header reads what is to do with its expression. -/
theorem item_todo : ShaderHeader.item c ("todo".toList ++ s ++ line) =
    .ok (.todo (e.evaluate c), trimStart line) := by
  obtain ⟨hleading, -, hread⟩ :=
    qualifierBehind_expression h c line (k := "todo".toList) (by decide)
  rw [ShaderHeader.item_of_keyword List.mem_cons_self hleading, hread]
  rfl

end Keywords

/-! ## Test lines -/

namespace TestLine

variable {c : QualifierContext} {todo bug : Bool} {line rest : Text} {q : Qualifier}

/-- A line is read by what its first qualifier does, if it has one. -/
theorem readWith_eq : readWith c todo bug line =
    match effect? c line with
    | .error fault => .error fault
    | .ok none => (Command.read line).map fun command => some ⟨todo, bug, command⟩
    | .ok (some (.todo, q, rest)) => readWith c (todo || q.holds) bug rest
    | .ok (some (.bug, q, rest)) => readWith c todo (bug || q.holds) rest
    | .ok (some (.condition, q, rest)) =>
      if q.holds then readWith c todo bug rest else .ok none := by
  rw [readWith]
  split <;> rename_i heffect <;> rw [heffect]

/-- What is to do is marked if the qualifier holds. -/
theorem readWith_todo (h : effect? c line = .ok (some (.todo, q, rest))) :
    readWith c todo bug line = readWith c (todo || q.holds) bug rest := by
  rw [readWith_eq, h]

/-- A known bug is marked if the qualifier holds. -/
theorem readWith_bug (h : effect? c line = .ok (some (.bug, q, rest))) :
    readWith c todo bug line = readWith c todo (bug || q.holds) rest := by
  rw [readWith_eq, h]

/-- A condition that does not hold ends the line. -/
theorem readWith_condition (h : effect? c line = .ok (some (.condition, q, rest))) :
    readWith c todo bug line = if q.holds then readWith c todo bug rest else .ok none := by
  rw [readWith_eq, h]

/-- What stands behind the marks is the command. -/
theorem readWith_command (h : effect? c line = .ok none) : readWith c todo bug line =
    (Command.read line).map fun command => some ⟨todo, bug, command⟩ := by
  rw [readWith_eq, h]

end TestLine

/-! ## Shader headers -/

namespace ShaderHeader

/-- The header with more models whose result is expected to be wrong. -/
def withTodo (header : ShaderHeader) (mask : ModelMask) : ShaderHeader :=
  { header with todo := header.todo ||| mask }

/-- It does not matter when models are added that are to do. -/
theorem apply_withTodo (header : ShaderHeader) (mask : ModelMask) (i : Item) :
    (header.withTodo mask).apply i = (header.apply i).withTodo mask := by
  cases i with
  | todo q =>
    have hmask : header.todo ||| mask ||| q.gated = header.todo ||| q.gated ||| mask := by
      apply ModelMask.ext_contains
      intro m
      simp only [ModelMask.contains_or, Bool.or_right_comm]
    simp only [apply, withTodo, hmask]
  | status | format => rfl

/-- The models of a `todo` count, whatever else the header says. -/
theorem foldl_apply_withTodo (list : List Item) (header : ShaderHeader) (mask : ModelMask) :
    list.foldl apply (header.withTodo mask) = (list.foldl apply header).withTodo mask := by
  induction list generalizing header with
  | nil => rfl
  | cons i list ih => rw [List.foldl_cons, List.foldl_cons, apply_withTodo, ih]

/-- The first item is followed by the others. -/
theorem items_of_item {c : QualifierContext} {line rest : Text} {i : Item}
    (h : item c line = .ok (i, rest)) : items c line = (items c rest).map (i :: ·) := by
  have hnonempty : ¬ line.isEmpty = true := by
    intro hempty
    rw [List.isEmpty_iff] at hempty
    subst hempty
    exact Nat.not_lt_zero _ (length_item h)
  rw [items, if_neg hnonempty]
  split <;> rename_i hitem <;> cases h.symm.trans hitem
  rfl

/-- A `todo` with an expression adds the gated models of the expression to what the rest of
    the header says. -/
theorem read_todo {s rest : Text} {e : QualifierExpr} (h : expression (s ++ rest) = .ok (e, rest))
    (c : QualifierContext) (type : ShaderType) (more : Text) :
    read c type ("todo".toList ++ s ++ more) =
      (read c type more).map (·.withTodo (e.evaluate c).gated) := by
  have htrim : trimStart ("todo".toList ++ s ++ more) = "todo".toList ++ s ++ more := rfl
  rw [read, htrim, items_of_item (item_todo h c more), read]
  cases items c (trimStart more) with
  | error fault => rfl
  | ok list =>
    have hfold := foldl_apply_withTodo list (plain type) (e.evaluate c).gated
    exact congrArg Except.ok hfold

end ShaderHeader

/-! ## The lowest model has no part in a header -/

section Range

variable (m m' : ShaderModel) (tags : List String)

/-- The lowest model decides no more of a qualifier than whether it holds. -/
theorem qualifiedKeyword_cases (line : Text) (keyword : String) :
    (∃ fault, qualifiedKeyword ⟨m, tags⟩ line keyword = .error fault ∧
        qualifiedKeyword ⟨m', tags⟩ line keyword = .error fault) ∨
      (qualifiedKeyword ⟨m, tags⟩ line keyword = .ok none ∧
        qualifiedKeyword ⟨m', tags⟩ line keyword = .ok none) ∨
      ∃ q q' rest, q.gated = q'.gated ∧
        qualifiedKeyword ⟨m, tags⟩ line keyword = .ok (some (q, rest)) ∧
        qualifiedKeyword ⟨m', tags⟩ line keyword = .ok (some (q', rest)) := by
  unfold qualifiedKeyword
  cases rawKeyword? line keyword.toList with
  | none => exact .inr (.inl ⟨rfl, rfl⟩)
  | some behind =>
    dsimp only
    split
    · -- The same expression is evaluated twice.
      unfold Qualifier.read
      cases expression behind with
      | error fault => exact .inl ⟨fault, rfl, rfl⟩
      | ok found =>
        exact .inr (.inr ⟨found.1.evaluate ⟨m, tags⟩, found.1.evaluate ⟨m', tags⟩,
          trimStart found.2, rfl, rfl, rfl⟩)
    · exact .inr (.inr ⟨.always, .always, trimStart behind, rfl, rfl, rfl⟩)

/-- In two contexts with the same tags, a table finds the same entry. -/
theorem firstQualified_cases {T : Type} (line : Text) (table : List (String × T)) :
    (∃ fault, firstQualified ⟨m, tags⟩ line table = .error fault ∧
        firstQualified ⟨m', tags⟩ line table = .error fault) ∨
      (firstQualified ⟨m, tags⟩ line table = .ok none ∧
        firstQualified ⟨m', tags⟩ line table = .ok none) ∨
      ∃ value q q' rest, value ∈ table.map Prod.snd ∧ q.gated = q'.gated ∧
        firstQualified ⟨m, tags⟩ line table = .ok (some (value, q, rest)) ∧
        firstQualified ⟨m', tags⟩ line table = .ok (some (value, q', rest)) := by
  induction table with
  | nil => exact .inr (.inl ⟨rfl, rfl⟩)
  | cons entry table ih =>
    obtain ⟨keyword, value⟩ := entry
    unfold firstQualified
    obtain ⟨fault, h, h'⟩ | ⟨h, h'⟩ | ⟨q, q', rest, hgated, h, h'⟩ :=
      qualifiedKeyword_cases m m' tags line keyword
    · rw [h, h']
      exact .inl ⟨fault, rfl, rfl⟩
    · -- The keyword does not match, so the others are tried.
      rw [h, h']
      obtain herror | hnone | ⟨value', q, q', rest, hmem, hfound⟩ := ih
      · exact .inl herror
      · exact .inr (.inl hnone)
      · exact .inr (.inr ⟨value', q, q', rest, List.mem_cons_of_mem _ hmem, hfound⟩)
    · rw [h, h']
      exact .inr (.inr ⟨value, q, q', rest, List.mem_cons_self, hgated, rfl, rfl⟩)

namespace ShaderHeader

/-- An item does the same to every header whatever the lowest model is. -/
theorem item_cases (line : Text) :
    (∃ fault, item ⟨m, tags⟩ line = .error fault ∧ item ⟨m', tags⟩ line = .error fault) ∨
      ∃ i i' rest, (∀ header : ShaderHeader, header.apply i = header.apply i') ∧
        item ⟨m, tags⟩ line = .ok (i, rest) ∧ item ⟨m', tags⟩ line = .ok (i', rest) := by
  unfold item
  obtain ⟨fault, h, h'⟩ | ⟨h, h'⟩ | ⟨make, q, q', rest, hmake, hgated, h, h'⟩ :=
    firstQualified_cases m m' tags line qualifiedItems
  · rw [h, h']
    exact .inl ⟨fault, rfl, rfl⟩
  · rw [h, h']
    cases tableKeyword? line SourceFormat.table with
    | none => exact .inl ⟨_, rfl, rfl⟩
    | some found => exact .inr ⟨.format found.1, .format found.1, found.2, fun _ => rfl, rfl, rfl⟩
  · -- All three items ask for the gated models of their qualifiers only.
    have hsame : ∀ header : ShaderHeader, header.apply (make q) = header.apply (make q') := by
      intro header
      simp only [qualifiedItems, List.map_cons, List.map_nil, List.mem_cons, List.not_mem_nil,
        or_false] at hmake
      rcases hmake with rfl | rfl | rfl <;> simp only [apply, hgated]
    rw [h, h']
    exact .inr ⟨make q, make q', rest, hsame, rfl, rfl⟩

/-- In two contexts with the same tags, items come to the same header. -/
theorem items_cases (line : Text) :
    (∃ fault, items ⟨m, tags⟩ line = .error fault ∧ items ⟨m', tags⟩ line = .error fault) ∨
      ∃ list list', (∀ header : ShaderHeader,
          list.foldl apply header = list'.foldl apply header) ∧
        items ⟨m, tags⟩ line = .ok list ∧ items ⟨m', tags⟩ line = .ok list' := by
  induction hlength : line.length using Nat.strong_induction_on generalizing line with
  | h length ih =>
    by_cases hempty : line.isEmpty = true
    · have hnone (c : QualifierContext) : items c line = .ok [] := by rw [items, if_pos hempty]
      exact .inr ⟨[], [], fun _ => rfl, hnone _, hnone _⟩
    obtain ⟨fault, h, h'⟩ | ⟨i, i', rest, hsame, h, h'⟩ := item_cases m m' tags line
    · have herror {c : QualifierContext} (h : item c line = .error fault) :
          items c line = .error fault := by
        rw [items, if_neg hempty]
        split <;> rename_i hitem <;> cases h.symm.trans hitem
        rfl
      exact .inl ⟨fault, herror h, herror h'⟩
    · rw [items_of_item h, items_of_item h']
      -- What follows the item is shorter.
      obtain ⟨fault, hrest, hrest'⟩ | ⟨list, list', hlist, hrest, hrest'⟩ :=
        ih rest.length (hlength ▸ length_item h) rest rfl
      · rw [hrest, hrest']
        exact .inl ⟨fault, rfl, rfl⟩
      · have hcons : ∀ header : ShaderHeader,
            (i :: list).foldl apply header = (i' :: list').foldl apply header := by
          intro header
          rw [List.foldl_cons, List.foldl_cons, hsame, hlist]
        rw [hrest, hrest']
        exact .inr ⟨i :: list, i' :: list', hcons, rfl, rfl⟩

/-- A header says the same whatever the lowest model is. -/
theorem read_eq_of_tags (type : ShaderType) (text : Text) :
    read ⟨m, tags⟩ type text = read ⟨m', tags⟩ type text := by
  rw [read, read]
  obtain ⟨fault, h, h'⟩ | ⟨list, list', hsame, h, h'⟩ := items_cases m m' tags (trimStart text)
  · rw [h, h']
  · rw [h, h']
    exact congrArg Except.ok (hsame (plain type))

end ShaderHeader

end Range

/-! ## One meaning in both places -/

/-- What a qualifier text means for a runner with some tags, on test lines and in headers alike:
    it holds for the models of `mask`, and without its tags it speaks of `models`. -/
structure ReadsAlike (s : Text) (tags : List String) (models mask : ModelMask) : Prop where
  /-- The text is an expression, and its truth at a model is membership in the mask. -/
  value : ∀ m rest,
    Qualifier.read ⟨m, tags⟩ (s ++ rest) = .ok (⟨mask.contains m, models, mask⟩, rest)
  /-- Tags only take models away. -/
  within : ∀ m, mask.contains m = true → models.contains m = true
  /-- After `todo` in a header it adds the models of the mask, whatever the lowest model is. -/
  header : ∀ m type more, ShaderHeader.read ⟨m, tags⟩ type ("todo".toList ++ s ++ more) =
    (ShaderHeader.read ⟨m, tags⟩ type more).map (·.withTodo mask)
  /-- After `todo` on a test line it holds for the models of the mask. -/
  todo : ∀ m todo bug line, TestLine.readWith ⟨m, tags⟩ todo bug ("todo".toList ++ s ++ line) =
    TestLine.readWith ⟨m, tags⟩ (todo || mask.contains m) bug (trimStart line)
  /-- So it does after `bug`. -/
  bug : ∀ m todo bug line, TestLine.readWith ⟨m, tags⟩ todo bug ("bug".toList ++ s ++ line) =
    TestLine.readWith ⟨m, tags⟩ todo (bug || mask.contains m) (trimStart line)
  /-- After `if` the line counts for the models of the mask. -/
  condition : ∀ m todo bug line,
    TestLine.readWith ⟨m, tags⟩ todo bug ("if".toList ++ s ++ line) =
      if mask.contains m then TestLine.readWith ⟨m, tags⟩ todo bug (trimStart line) else .ok none

/-- Every text that is read as a qualifier, whatever follows it and for whatever runner, is read
    alike on test lines and in headers, for every runner and lowest model; and no header depends
    on the lowest model. -/
theorem readsAlike_of_read {c : QualifierContext} {s rest : Text} {q : Qualifier}
    (hread : Qualifier.read c (s ++ rest) = .ok (q, rest)) :
    (∀ tags, ∃ mask, ReadsAlike s tags q.models mask) ∧
      ∀ tags m m' type text,
        ShaderHeader.read ⟨m, tags⟩ type text = ShaderHeader.read ⟨m', tags⟩ type text := by
  obtain ⟨e, h, rfl⟩ := exists_expression_of_read hread
  constructor
  · intro tags
    -- The gated set does not depend on the lowest model, so any of them gives the mask.
    have hholds (m : ShaderModel) : (e.evaluate ⟨m, tags⟩).holds =
        (e.evaluate ⟨.oldest, tags⟩).gated.contains m := e.holds_evaluate m .oldest tags
    refine ⟨(e.evaluate ⟨.oldest, tags⟩).gated, ?_, ?_, ?_, ?_, ?_, ?_⟩
    · intro m rest'
      rw [read_eq_map ⟨m, tags⟩ (expression_append h rest'), ← hholds]
      rfl
    · intro m hm
      exact e.contains_models_of_gated m .oldest tags hm
    · intro m type more
      exact ShaderHeader.read_todo h ⟨m, tags⟩ type more
    · intro m todo bug line
      rw [TestLine.readWith_todo (effect?_todo h ⟨m, tags⟩ line), hholds]
    · intro m todo bug line
      rw [TestLine.readWith_bug (effect?_bug h ⟨m, tags⟩ line), hholds]
    · intro m todo bug line
      rw [TestLine.readWith_condition (effect?_condition h ⟨m, tags⟩ line), hholds]
  · intro tags m m' type text
    exact ShaderHeader.read_eq_of_tags m m' tags type text

/-- A qualifier that a tag takes some models away from. -/
def gatedText : Text := "(sm<3.0 | sm>=5.0 & !warp)".toList

/-- A qualifier that depends on a tag. -/
theorem readsAlike_gatedText :
    Qualifier.read ⟨.sm4_0, ["warp"]⟩ gatedText = .ok (⟨false, .ofBits 0xf1, .ofBits 0x01⟩, []) ∧
      ∃ mask, ReadsAlike gatedText ["warp"] (.ofBits 0xf1) mask ∧
        mask.contains .sm2_0 = true ∧ mask.contains .sm5_0 = false := by
  have hread : Qualifier.read ⟨.sm4_0, ["warp"]⟩ (gatedText ++ []) =
      .ok (⟨false, .ofBits 0xf1, .ofBits 0x01⟩, []) := by decide +kernel
  obtain ⟨mask, hmask⟩ := (readsAlike_of_read hread).1 ["warp"]
  have hvalue := hmask.value .sm4_0 []
  rw [hread] at hvalue
  simp only [Except.ok.injEq, Prod.mk.injEq, Qualifier.mk.injEq, and_true, true_and] at hvalue
  refine ⟨hread, mask, hmask, ?_, ?_⟩
  · rw [← hvalue.2]
    rfl
  · rw [← hvalue.2]
    rfl

end ShaderConformance
