import Mathlib.Data.List.Induction
import ShaderConformance.Proofs.QualifierUse

/-!
# Headers of shader blocks, item by item

A header is a sequence of items, each found by the word that leads it.  What a header says is
told by the items alone: a model takes the outcome of the last item that speaks of it, and
a format the last name.

## Main definitions

- `ShaderHeader.Item.Written`: the ways to write an item
- `ShaderHeader.Says`: what items say together

## Main statements

- `ShaderHeader.item_eq_ok_iff`: what reading one item comes to
- `ShaderHeader.items_eq_ok_iff`: the texts that are read as items
- `ShaderHeader.says_foldl`: applying items in turn gives what they say together
- `ShaderHeader.read_says_items`: a text is read as a header if it consists of items
-/

namespace ShaderConformance

open Text

/-- A written qualifier begins with its keyword. -/
theorem Qualified.trimStart_append {context : QualifierContext} {k w : Text} {q : Qualifier}
    (hk : k.IsKeyword) (h : Qualified context k q w) (s : Text) : trimStart (w ++ s) = w ++ s := by
  cases h with
  | bare => exact hk.trimStart_append s
  | expression h =>
    rw [List.append_assoc]
    exact hk.trimStart_append _

namespace ShaderHeader

/-! ## Items and what they say -/

namespace Item

/-- The ways to write an item. -/
inductive Written (context : QualifierContext) : Item → Text → Prop
  | todo {q : Qualifier} {w : Text} (h : Qualified context "todo".toList q w) :
      Written context (.todo q) w
  | fail {q : Qualifier} {w : Text} (h : Qualified context "fail".toList q w) :
      Written context (.status q .fail) w
  | notImplemented {q : Qualifier} {w : Text} (h : Qualified context "notimpl".toList q w) :
      Written context (.status q .notImplemented) w
  | format (f : SourceFormat) : Written context (.format f) f.name.toList

/-- The outcome that an item expects at a model. -/
def status? (m : ShaderModel) : Item → Option CompileStatus
  | .status q s => if q.gated.contains m then some s else none
  | _ => none

/-- Whether an item says that the result at a model is wrong. -/
def isTodo (m : ShaderModel) : Item → Bool
  | .todo q => q.gated.contains m
  | _ => false

/-- The format that an item names. -/
def format? : Item → Option SourceFormat
  | .format f => some f
  | _ => none

end Item

section Says

variable {T : Type} {type : ShaderType} {list : List Item} {header : ShaderHeader}

/-- What the last item says that says anything. -/
def last? (say? : Item → Option T) (list : List Item) : Option T := (list.filterMap say?).getLast?

/-- What items say together.  Of several items about the same thing the last one counts. -/
structure Says (type : ShaderType) (list : List Item) (header : ShaderHeader) : Prop where
  type_eq : header.type = type
  expected_eq : ∀ m, header.expected m = (last? (·.status? m) list).getD .ok
  todo_iff : ∀ m, header.todo.contains m = true ↔ ∃ i ∈ list, i.isTodo m = true
  format_eq : header.format = (last? Item.format? list).getD .hlsl

/-- The last item decides, if it says anything. -/
theorem last?_concat (say? : Item → Option T) (list : List Item) (i : Item) :
    last? say? (list ++ [i]) = (say? i).or (last? say? list) := by
  rw [last?, List.filterMap_append, List.getLast?_append, last?]
  cases hsaid : say? i <;> simp [hsaid]

/-! What one item does to each part of a header. -/

/-- No item changes the type of a shader. -/
theorem type_apply (header : ShaderHeader) (i : Item) : (header.apply i).type = header.type := by
  cases i <;> rfl

/-- An item decides what is expected of the models that it speaks of. -/
theorem expected_apply (header : ShaderHeader) (i : Item) (m : ShaderModel) :
    (header.apply i).expected m = (i.status? m).getD (header.expected m) := by
  cases i with
  | status q s =>
    simp only [apply, expect, Item.status?]
    split <;> rfl
  | todo | format => rfl

/-- An item adds models that are still to do. -/
theorem contains_todo_apply (header : ShaderHeader) (i : Item) (m : ShaderModel) :
    (header.apply i).todo.contains m = (header.todo.contains m || i.isTodo m) := by
  cases i with
  | todo q => exact ModelMask.contains_or _ _ m
  | status | format => exact (Bool.or_false _).symm

/-- An item that names a format sets it. -/
theorem format_apply (header : ShaderHeader) (i : Item) :
    (header.apply i).format = i.format?.getD header.format := by
  cases i <;> rfl

/-- One more item changes what it speaks of, and nothing else. -/
theorem Says.concat (h : Says type list header) (i : Item) :
    Says type (list ++ [i]) (header.apply i) where
  type_eq := (type_apply header i).trans h.type_eq
  expected_eq m := by
    rw [expected_apply, h.expected_eq, last?_concat]
    cases i.status? m <;> rfl
  todo_iff m := by
    rw [contains_todo_apply, Bool.or_eq_true, h.todo_iff]
    simp only [List.mem_append, List.mem_singleton, or_and_right, exists_or, exists_eq_left]
  format_eq := by
    rw [format_apply, h.format_eq, last?_concat]
    cases i.format? <;> rfl

/-- Applying items one after the other gives what they say together. -/
theorem says_foldl (type : ShaderType) (list : List Item) :
    Says type list (list.foldl apply (plain type)) := by
  induction list using List.reverseRecOn with
  | nil => exact ⟨rfl, fun _ => rfl, fun m => by simp [plain], rfl⟩
  | append_singleton list i ih =>
    rw [List.foldl_concat]
    exact ih.concat i

end Says

/-! ## One item -/

/-- No format is named as another one. -/
theorem isKeywordTable_formats : IsKeywordTable SourceFormat.table := by decide

variable {context : QualifierContext} {i : Item} {list : List Item} {f : SourceFormat}
  {keyword : String} {make : Qualifier → Item} {w gap text line rest : Text}

/-- Every format is named in the table. -/
theorem mem_formats (f : SourceFormat) : (f.name, f) ∈ SourceFormat.table := by
  cases f <;> decide

/-- No format is named as an item. -/
theorem keyword_ne_name (f : SourceFormat) :
    ∀ entry ∈ qualifiedItems, f.name.toList ≠ entry.1.toList := by
  cases f <;> decide

/-- The name of a format finds the format. -/
theorem item_of_name (hleading : leadingWord line = f.name.toList) :
    item context line = .ok (.format f, trimStart (behindWord line)) := by
  have hne : ∀ entry ∈ qualifiedItems, leadingWord line ≠ entry.1.toList := by
    rw [hleading]
    exact keyword_ne_name f
  rw [item, firstQualified_of_ne isKeywordTable_qualifiedItems hne,
    tableKeyword?_of_mem isKeywordTable_formats (mem_formats f) hleading]

/-- Nothing else finds an item. -/
theorem leadingWord_of_item (h : item context line = .ok (i, rest)) :
    (∃ entry ∈ qualifiedItems, leadingWord line = entry.1.toList) ∨
      ∃ f : SourceFormat, leadingWord line = f.name.toList := by
  by_cases hqualified : ∃ entry ∈ qualifiedItems, leadingWord line = entry.1.toList
  · exact .inl hqualified
  · have hne : ∀ entry ∈ qualifiedItems, leadingWord line ≠ entry.1.toList :=
      fun entry hmem hleading => hqualified ⟨entry, hmem, hleading⟩
    rw [item, firstQualified_of_ne isKeywordTable_qualifiedItems hne] at h
    dsimp only at h
    -- What is left is the table of formats, of which the longest name that matches is taken.
    split at h
    · rename_i found hfound
      obtain ⟨⟨name, f, _⟩, hlongest, -⟩ := Option.map_eq_some_iff.mp hfound
      obtain ⟨hmem, hkeyword⟩ := longest?_mem hlongest
      rw [keyword?_eq (isKeywordTable_formats.keywords _ hmem)] at hkeyword
      split at hkeyword
      · rename_i hleading
        obtain ⟨g, -, hentry⟩ := List.mem_map.mp hmem
        obtain ⟨rfl, rfl⟩ := Prod.mk.inj hentry
        exact .inr ⟨g, hleading⟩
      · cases hkeyword
    · cases h

/-- An item is written with its keyword and its qualifier. -/
theorem Item.Written.of_mem {q : Qualifier} (hmem : (keyword, make) ∈ qualifiedItems)
    (h : Qualified context keyword.toList q w) : (make q).Written context w := by
  simp only [qualifiedItems, List.mem_cons, Prod.mk.injEq, List.not_mem_nil, or_false] at hmem
  obtain ⟨rfl, rfl⟩ | ⟨rfl, rfl⟩ | ⟨rfl, rfl⟩ := hmem
  · exact .todo h
  · exact .fail h
  · exact .notImplemented h

/-- The ways to write an item, by its keyword. -/
theorem Item.Written.cases_keyword (h : i.Written context w) :
    (∃ entry ∈ qualifiedItems, ∃ q, i = entry.2 q ∧ Qualified context entry.1.toList q w) ∨
      ∃ f : SourceFormat, i = .format f ∧ w = f.name.toList := by
  cases h with
  | todo h => exact .inl ⟨("todo", .todo), by simp [qualifiedItems], _, rfl, h⟩
  | fail h => exact .inl ⟨("fail", (.status · .fail)), by simp [qualifiedItems], _, rfl, h⟩
  | notImplemented h =>
    exact .inl ⟨("notimpl", (.status · .notImplemented)), by simp [qualifiedItems], _, rfl, h⟩
  | format f => exact .inr ⟨f, rfl, rfl⟩

/-- A written item is read, whatever follows it. -/
theorem item_of_written (h : i.Written context w) (hgap : gap.Separates w text) :
    item context (w ++ gap ++ text) = .ok (i, trimStart text) := by
  obtain ⟨⟨keyword, make⟩, hmem, q, rfl, hqualified⟩ | ⟨f, rfl, rfl⟩ := h.cases_keyword
  · have hk := isKeywordTable_qualifiedItems.keywords _ hmem
    obtain ⟨hleading, hread, -⟩ := hqualified.reads hk hgap
    rw [item_of_keyword hmem hleading, hread]
    rfl
  · have hk := isKeywordTable_formats.keywords _ (mem_formats f)
    obtain ⟨hleading, hbehind⟩ := leadingWord_append hk (hgap.atBoundary hk.not_closed)
    rw [List.append_assoc, item_of_name hleading, hbehind, hgap.trimStart]

/-- What is read as an item is written there. -/
theorem written_of_item (h : item context line = .ok (i, rest)) :
    ∃ w behind, trimStart line = w ++ behind ∧ rest = trimStart behind ∧
      i.Written context w ∧ (w.Closed ∨ behind.AtBoundary) := by
  obtain ⟨⟨keyword, make⟩, hmem, hleading⟩ | ⟨f, hleading⟩ := leadingWord_of_item h
  · rw [item_of_keyword hmem hleading] at h
    obtain ⟨⟨q, rest'⟩, hread, hresult⟩ := map_eq_ok_iff.mp h
    obtain ⟨rfl, rfl⟩ := Prod.mk.inj hresult
    obtain ⟨w, behind, hline, hrest, hwritten, hend⟩ := exists_qualified hleading hread
    exact ⟨w, behind, hline, hrest, .of_mem hmem hwritten, hend⟩
  · rw [item_of_name hleading] at h
    obtain ⟨rfl, rfl⟩ := Prod.mk.inj (Except.ok.inj h)
    have hline := leadingWord_append_behindWord line
    rw [hleading] at hline
    exact ⟨_, _, hline.symm, rfl, .format f, .inr (atBoundary_behindWord line)⟩

/-! ## All items -/

/-- A written item begins with its keyword. -/
theorem Item.Written.trimStart_append (h : i.Written context w) (s : Text) :
    Text.trimStart (w ++ s) = w ++ s := by
  obtain ⟨⟨keyword, make⟩, hmem, q, rfl, hqualified⟩ | ⟨f, rfl, rfl⟩ := h.cases_keyword
  · exact hqualified.trimStart_append (isKeywordTable_qualifiedItems.keywords _ hmem) s
  · exact (isKeywordTable_formats.keywords _ (mem_formats f)).trimStart_append s

/-- Items are read one after the other. -/
theorem items_of_spaced (h : Spaced (Item.Written context) list line []) :
    trimStart line = line ∧ items context line = .ok list := by
  -- The induction is on how the items stand in the line; behind the last one the line ends.
  generalize hrest : ([] : Text) = rest at h
  induction h with
  | nil =>
    subst hrest
    exact ⟨rfl, by rw [items]; rfl⟩
  | @cons i list w gap text rest hitem hgap _ ih =>
    obtain ⟨htrim, hread⟩ := ih hrest
    constructor
    · rw [List.append_assoc, hitem.trimStart_append]
    · rw [items_of_item (item_of_written hitem hgap), htrim, hread]
      rfl

/-- Unless the text is empty, what is read as items begins with one. -/
theorem items_eq_ok_iff : items context line = .ok list ↔ (line = [] ∧ list = []) ∨
    ∃ i rest more, item context line = .ok (i, rest) ∧ items context rest = .ok more ∧
      list = i :: more := by
  constructor
  · intro h
    rw [items] at h
    split at h
    · -- At the end of the line there are no more items.
      rename_i hempty
      cases h
      exact .inl ⟨List.isEmpty_iff.mp hempty, rfl⟩
    · split at h
      · cases h
      · rename_i i rest hitem
        obtain ⟨more, hmore, rfl⟩ := map_eq_ok_iff.mp h
        exact .inr ⟨i, rest, more, hitem, hmore, rfl⟩
  · rintro (⟨rfl, rfl⟩ | ⟨i, rest, more, hitem, hmore, rfl⟩)
    · rw [items]
      rfl
    · rw [items_of_item hitem, hmore]
      rfl

/-- Items begin with a word. -/
theorem leadingWord_ne_nil_of_items (h : items context line = .ok list) :
    line = [] ∨ leadingWord line ≠ [] := by
  obtain ⟨rfl, -⟩ | ⟨i, rest, more, hitem, -, -⟩ := items_eq_ok_iff.mp h
  · exact .inl rfl
  · obtain ⟨entry, hmem, hleading⟩ | ⟨f, hleading⟩ := leadingWord_of_item hitem
    · exact .inr (hleading ▸ (isKeywordTable_qualifiedItems.keywords _ hmem).nonempty)
    · exact .inr (hleading ▸ (isKeywordTable_formats.keywords _ (mem_formats f)).nonempty)

/-- What is read as items is written there. -/
theorem spaced_of_items (htrim : trimStart line = line) (h : items context line = .ok list) :
    Spaced (Item.Written context) list line [] := by
  induction list generalizing line with
  | nil =>
    obtain ⟨rfl, -⟩ | ⟨_, _, _, _, _, ⟨⟩⟩ := items_eq_ok_iff.mp h
    exact .nil []
  | cons i list ih =>
    obtain ⟨_, ⟨⟩⟩ | ⟨_, rest, _, hitem, hmore, ⟨⟩⟩ := items_eq_ok_iff.mp h
    obtain ⟨w, behind, hline, rfl, hwritten, hend⟩ := written_of_item hitem
    -- Another item or nothing follows, so what stands before it separates the two.
    have hnext : trimStart behind = [] ∨ leadingWord behind ≠ [] := by
      rw [← leadingWord_trimStart]
      exact leadingWord_ne_nil_of_items hmore
    obtain ⟨gap, hbehind, hgap⟩ := exists_separates hend hnext
    rw [← htrim, hline, hbehind, ← List.append_assoc]
    exact .cons hwritten hgap (ih (trimStart_trimStart behind) hmore)

/-- Every text of items, with blanks between them, is read as a header, and the header says what
    the items say.  Nothing else is read as a header. -/
theorem read_says_items (context : QualifierContext) (type : ShaderType) (text : Text) :
    (∀ before body list, text = before ++ body → before.Blanks →
      Spaced (Item.Written context) list body [] →
        ∃ header, read context type text = .ok header ∧ Says type list header) ∧
    (∀ header, read context type text = .ok header →
      ∃ before body list, text = before ++ body ∧ before.Blanks ∧
        Spaced (Item.Written context) list body [] ∧ Says type list header) := by
  constructor
  · rintro before body list rfl hbefore hspaced
    obtain ⟨htrim, hitems⟩ := items_of_spaced hspaced
    refine ⟨list.foldl apply (plain type), ?_, says_foldl type list⟩
    rw [read, trimStart_append_of_blanks hbefore, htrim, hitems]
    rfl
  · intro header h
    obtain ⟨list, hitems, rfl⟩ := map_eq_ok_iff.mp h
    obtain ⟨before, hbefore, htext, -⟩ := exists_blanks_append_trimStart text
    exact ⟨before, trimStart text, list, htext, hbefore,
      spaced_of_items (trimStart_trimStart text) hitems, says_foldl type list⟩

/-- A header with an item of each kind, and two that speak of the newest models. -/
def mixedHeader : Text := " todo(sm<6.0)fail notimpl(sm>=6.0)\tdxbc-tpf-hex".toList

/-- A header with an item of each kind. -/
theorem read_says_items_mixed :
    ∃ header, read ⟨.sm4_0, []⟩ .pixel mixedHeader = .ok header ∧
      header.expected .sm5_1 = .fail ∧ header.expected .sm6_0 = .notImplemented ∧
      header.todo.contains .sm5_1 = true ∧ header.todo.contains .sm6_0 = false ∧
      header.format = .dxbcTpfHex ∧
      ∃ before body list, mixedHeader = before ++ body ∧ before.Blanks ∧
        Spaced (Item.Written ⟨.sm4_0, []⟩) list body [] ∧ Says .pixel list header := by
  -- The bounds, as they are read.
  have hbelow : Qualifier.read ⟨.sm4_0, []⟩ "(sm<6.0)".toList =
      .ok (⟨true, .ofBits 0x3f, .ofBits 0x3f⟩, []) := by decide +kernel
  have hfrom : Qualifier.read ⟨.sm4_0, []⟩ "(sm>=6.0)".toList =
      .ok (⟨false, .ofBits 0xc0, .ofBits 0xc0⟩, []) := by decide +kernel
  have hbody : "todo(sm<6.0)fail notimpl(sm>=6.0)\tdxbc-tpf-hex".toList =
      ("todo".toList ++ "(sm<6.0)".toList) ++ [] ++ ("fail".toList ++ [' '] ++
        (("notimpl".toList ++ "(sm>=6.0)".toList) ++ ['\t'] ++
          ("dxbc-tpf-hex".toList ++ [] ++ []))) := by decide +kernel
  -- The items, with what separates them.
  have hspaced : Spaced (Item.Written ⟨.sm4_0, []⟩) [.todo ⟨true, .ofBits 0x3f, .ofBits 0x3f⟩,
      .status .always .fail, .status ⟨false, .ofBits 0xc0, .ofBits 0xc0⟩ .notImplemented,
      .format .dxbcTpfHex] "todo(sm<6.0)fail notimpl(sm>=6.0)\tdxbc-tpf-hex".toList [] := by
    rw [hbody]
    exact .cons (.todo (.expression hbelow)) ⟨nofun, fun _ => .inl (by decide)⟩
      (.cons (.fail .bare) ⟨by decide, nofun⟩
        (.cons (.notImplemented (.expression hfrom)) ⟨by decide, nofun⟩
          (.cons (.format .dxbcTpfHex) ⟨nofun, fun _ => .inr rfl⟩ (.nil []))))
  obtain ⟨header, hread, hsays⟩ := (read_says_items ⟨.sm4_0, []⟩ .pixel mixedHeader).1 [' '] _ _
    (by decide +kernel) (by decide) hspaced
  have htodo (m : ShaderModel) : header.todo.contains m = (ModelMask.ofBits 0x3f).contains m := by
    rw [Bool.eq_iff_iff, hsays.todo_iff]
    simp [Item.isTodo]
  exact ⟨header, hread, hsays.expected_eq .sm5_1, hsays.expected_eq .sm6_0, htodo .sm5_1,
    htodo .sm6_0, hsays.format_eq, (read_says_items ⟨.sm4_0, []⟩ .pixel mixedHeader).2 header hread⟩

end ShaderHeader

end ShaderConformance
