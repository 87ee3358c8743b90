import Mathlib.Data.List.Nodup
import ShaderConformance.Comparison
import ShaderConformance.Proofs.KeywordLayout

/-!
# Tables of names of several words

The names of a table may begin with one another, as `less` and `less equal` do, and the blanks
between their words may be of any width on a line.  Each word of a name that matches is the leading
word of what the words before it leave.  So of two names that match, one goes on after the other
with a space; the longest one is unique, and it does not matter in which order the names are tried.

## Main definitions

- `Text.phrase`: words with single spaces between them
- `IsNameTable`: a table of different names, each of words
- `LongestMatch`: the longest name of a table that matches a line

## Main statements

- `prefix_or_prefix`: of two keywords that match, one begins with the words of the other
- `continues_of_matches`: of two names that match, one goes on after the other
- `tableKeyword?_longest`: the longest name that matches is found, whatever the order
-/

namespace ShaderConformance

open Text

/-! ## Words of names -/

/-- A word of a name: none of its characters ends a word. -/
structure Text.IsSolid (w : Text) : Prop where
  nonempty : w ≠ []
  solid : ∀ c ∈ w, endsWord c = false

instance (w : Text) : Decidable w.IsSolid :=
  decidable_of_iff (w ≠ [] ∧ w.all (!endsWord ·) = true) <| by
    simp only [List.all_eq_true, Bool.not_eq_true']
    exact ⟨fun h => ⟨h.1, h.2⟩, fun h => ⟨h.nonempty, h.solid⟩⟩

/-- Words with single spaces between them. -/
def Text.phrase (ws : List Text) : Text := List.intercalate [' '] ws

section Words

variable {w line behind : Text} {us vs ws more : List Text}

/-- A solid text is a word. -/
theorem Text.IsSolid.isWord (hw : w.IsSolid) : w.IsWord where
  nonempty := hw.nonempty
  solid c hc := isBlank_of_solid (hw.solid c hc)

/-- A phrase of one word is that word. -/
theorem phrase_singleton (w : Text) : phrase [w] = w := List.intercalate_singleton

theorem phrase_cons (w : Text) (hws : ws ≠ []) : phrase (w :: ws) = w ++ ' ' :: phrase ws := by
  obtain ⟨v, vs, rfl⟩ := List.exists_cons_of_ne_nil hws
  rw [phrase, List.intercalate_cons_cons, List.append_assoc]
  rfl

theorem phrase_append (hus : us ≠ []) (hmore : more ≠ []) :
    phrase (us ++ more) = phrase us ++ ' ' :: phrase more := by
  induction us with
  | nil => exact absurd rfl hus
  | cons u us ih =>
    rw [List.cons_append]
    by_cases hlast : us = []
    · rw [hlast, List.nil_append, phrase_cons u hmore, phrase_singleton]
    · have hrest : us ++ more ≠ [] := List.append_ne_nil_of_left_ne_nil hlast more
      rw [phrase_cons u hrest, phrase_cons u hlast, ih hlast, List.append_assoc, List.cons_append]

/-- The words of a name are read off it again. -/
theorem words_phrase (h : ∀ w ∈ ws, w.IsSolid) : words (phrase ws) = ws := by
  induction ws with
  | nil => rfl
  | cons w ws ih =>
    obtain ⟨hw, hws⟩ := List.forall_mem_cons.mp h
    by_cases hlast : ws = []
    · have hend : Text.BetweenWords [] := by simp [Text.Stops]
      have hword := words_append hw.isWord hend
      rw [List.append_nil] at hword
      rw [hlast, phrase_singleton, hword]
      rfl
    · have hspace : Text.BetweenWords (' ' :: phrase ws) := stops_cons_iff.mpr (by decide)
      rw [phrase_cons w hlast, words_append hw.isWord hspace, words_blank (by decide), ih hws]

/-- A word that matches is the leading word of the line. -/
theorem leadingWord_of_keywordWord? (hw : w.IsSolid) (h : keywordWord? line w = some behind) :
    leadingWord line = w ∧ behindWord line = behind := by
  obtain ⟨hline, hboundary⟩ := keywordWord?_eq_some_iff.mp h
  have hsolid : ∀ c ∈ w, (!endsWord c) = true := by
    intro c hc
    rw [hw.solid c hc]
    rfl
  rw [leadingWord, behindWord, hline]
  exact ⟨takeWhile_append_of_stops hsolid hboundary, dropWhile_append_of_stops hsolid hboundary⟩

/-- Of two keywords that match, one begins with the words of the other.  By induction on the words:
    the first words are both the leading word of the line, and leave the same line behind. -/
theorem prefix_or_prefix {r r' : Text} (hus : ∀ w ∈ us, w.IsSolid) (hvs : ∀ w ∈ vs, w.IsSolid)
    (h : keywordWords? line us = some r) (h' : keywordWords? line vs = some r') :
    us <+: vs ∨ vs <+: us := by
  induction us generalizing line vs with
  | nil => exact .inl List.nil_prefix
  | cons u us ih =>
    cases vs with
    | nil => exact .inr List.nil_prefix
    | cons v vs =>
      obtain ⟨hu, husolid⟩ := List.forall_mem_cons.mp hus
      obtain ⟨hv, hvsolid⟩ := List.forall_mem_cons.mp hvs
      obtain ⟨behind, hfirst, hmore⟩ := Option.bind_eq_some_iff.mp h
      obtain ⟨behind', hfirst', hmore'⟩ := Option.bind_eq_some_iff.mp h'
      obtain ⟨rfl, rfl⟩ := leadingWord_of_keywordWord? hu hfirst
      obtain ⟨rfl, rfl⟩ := leadingWord_of_keywordWord? hv hfirst'
      simp only [List.cons_prefix_cons, true_and]
      exact ih husolid hvsolid hmore hmore'

end Words

/-! ## Names -/

/-- A name: at least one word, with single spaces between the words. -/
def IsName (name : String) : Prop :=
  ∃ ws : List Text, ws ≠ [] ∧ (∀ w ∈ ws, w.IsSolid) ∧ name.toList = phrase ws

/-- A name that goes on after another one with a space. -/
def Continues (longer shorter : String) : Prop :=
  ∃ more : Text, longer.toList = shorter.toList ++ ' ' :: more

section Names

variable {line : Text} {name name' longer shorter : String}

/-- A name that goes on is longer, counted in characters and in bytes. -/
theorem Continues.lt (h : Continues longer shorter) :
    shorter.length < longer.length ∧ shorter.utf8ByteSize < longer.utf8ByteSize := by
  obtain ⟨more, hmore⟩ := h
  obtain rfl : longer = shorter ++ (" " ++ String.ofList more) := by
    apply String.toList_injective
    simp [hmore]
  have hspace : " ".length = 1 ∧ " ".utf8ByteSize = 1 := ⟨rfl, rfl⟩
  simp only [String.length_append, String.utf8ByteSize_append, hspace]
  omega

/-- Of two names that match a line, one goes on after the other, unless they are the same. -/
theorem continues_of_matches (hname : IsName name) (hname' : IsName name')
    (h : (keyword? line name).isSome) (h' : (keyword? line name').isSome) :
    name = name' ∨ Continues name name' ∨ Continues name' name := by
  obtain ⟨us, hus, hsolid, hphrase⟩ := hname
  obtain ⟨vs, hvs, hsolid', hphrase'⟩ := hname'
  rw [keyword?, rawKeyword?, hphrase, words_phrase hsolid, Option.isSome_map] at h
  rw [keyword?, rawKeyword?, hphrase', words_phrase hsolid', Option.isSome_map] at h'
  obtain ⟨r, hr⟩ := Option.isSome_iff_exists.mp h
  obtain ⟨r', hr'⟩ := Option.isSome_iff_exists.mp h'
  -- A name whose words begin another name's is that name or is continued by it.
  have hcontinues {us vs : List Text} (hus : us ≠ []) (hinit : us <+: vs) :
      phrase us = phrase vs ∨ ∃ more, phrase vs = phrase us ++ ' ' :: more := by
    obtain ⟨more, rfl⟩ := hinit
    by_cases hmore : more = []
    · rw [hmore, List.append_nil]
      exact .inl rfl
    · exact .inr ⟨phrase more, phrase_append hus hmore⟩
  -- Both names stand at the start of one line, so the words of one begin the other's.
  obtain hinit | hinit := prefix_or_prefix hsolid hsolid' hr hr'
  · obtain hsame | ⟨more, hmore⟩ := hcontinues hus hinit
    · exact .inl (String.toList_injective (by rw [hphrase, hphrase', hsame]))
    · exact .inr (.inr ⟨more, by rw [hphrase, hphrase', hmore]⟩)
  · obtain hsame | ⟨more, hmore⟩ := hcontinues hvs hinit
    · exact .inl (String.toList_injective (by rw [hphrase, hphrase', hsame]))
    · exact .inr (.inl ⟨more, by rw [hphrase, hphrase', hmore]⟩)

end Names

/-! ## Tables -/

/-- A table of different names. -/
structure IsNameTable {T : Type} (table : List (String × T)) : Prop where
  names : ∀ entry ∈ table, IsName entry.1
  distinct : (table.map Prod.fst).Nodup

/-- An entry whose name matches a line and is not shorter than any other one that does. -/
structure LongestMatch {T : Type} (line : Text) (table : List (String × T)) (name : String)
    (value : T) (rest : Text) : Prop where
  mem : (name, value) ∈ table
  matches_line : keyword? line name = some rest
  longest : ∀ entry ∈ table, (keyword? line entry.1).isSome →
    entry.1.length ≤ name.length ∧ entry.1.utf8ByteSize ≤ name.utf8ByteSize

section Tables

variable {T : Type} {table table' : List (String × T)} {line rest : Text} {name : String}
  {value : T}

/-- There is a longest entry if there is one that matches. -/
theorem longest?_isSome_iff :
    (longest? line table).isSome ↔ ∃ entry ∈ table, (keyword? line entry.1).isSome := by
  constructor
  · intro h
    obtain ⟨⟨name, value, rest⟩, hfound⟩ := Option.isSome_iff_exists.mp h
    obtain ⟨hmem, hmatch⟩ := longest?_mem hfound
    exact ⟨(name, value), hmem, by rw [hmatch]; rfl⟩
  · rintro ⟨⟨name, value⟩, hmem, hmatch⟩
    exact isSome_longest?_of_mem hmem hmatch

/-- No name that matches has more bytes than the one that is found. -/
theorem utf8ByteSize_le_of_longest? (h : longest? line table = some (name, value, rest)) :
    ∀ entry ∈ table, (keyword? line entry.1).isSome → entry.1.utf8ByteSize ≤ name.utf8ByteSize := by
  induction table generalizing name value rest with
  | nil => cases h
  | cons first table ih =>
    obtain ⟨other, v⟩ := first
    rw [List.forall_mem_cons]
    simp only [longest?] at h
    split at h
    · -- The first name does not match.
      rename_i hnone
      refine ⟨fun hmatch => ?_, ih h⟩
      rw [hnone] at hmatch
      cases hmatch
    · -- No later name matches.
      rename_i hlater
      obtain ⟨rfl, -⟩ := Prod.mk.inj (Option.some.inj h)
      refine ⟨fun _ => Nat.le_refl _, fun entry hmem hmatch => ?_⟩
      have hsome := longest?_isSome_iff.mpr ⟨entry, hmem, hmatch⟩
      rw [hlater] at hsome
      cases hsome
    · rename_i hlater
      have hle := ih hlater
      split at h
      · rename_i hlt
        obtain ⟨rfl, -⟩ := Prod.mk.inj (Option.some.inj h)
        exact ⟨fun _ => Nat.le_refl _, fun entry hmem hmatch =>
          Nat.le_trans (hle entry hmem hmatch) (Nat.le_of_lt hlt)⟩
      · rename_i hnot
        obtain ⟨rfl, -⟩ := Prod.mk.inj (Option.some.inj h)
        exact ⟨fun _ => Nat.le_of_not_lt hnot, hle⟩

/-- Names that match and are equally long are of the same entry. -/
theorem IsNameTable.eq_of_length {entry entry' : String × T} (htable : IsNameTable table)
    (hmem : entry ∈ table) (hmem' : entry' ∈ table) (h : (keyword? line entry.1).isSome)
    (h' : (keyword? line entry'.1).isSome)
    (hlength : entry.1.length = entry'.1.length ∨ entry.1.utf8ByteSize = entry'.1.utf8ByteSize) :
    entry = entry' := by
  obtain hsame | hlonger | hlonger :=
    continues_of_matches (htable.names entry hmem) (htable.names entry' hmem') h h'
  · exact List.inj_on_of_nodup_map htable.distinct hmem hmem' hsame
  · have := hlonger.lt
    omega
  · have := hlonger.lt
    omega

/-- What is found is the longest match. -/
theorem IsNameTable.longestMatch (htable : IsNameTable table)
    (h : longest? line table = some (name, value, rest)) :
    LongestMatch line table name value rest := by
  obtain ⟨hmem, hmatch⟩ := longest?_mem h
  refine ⟨hmem, hmatch, fun entry hentry hmatch' => ?_⟩
  have hbytes := utf8ByteSize_le_of_longest? h entry hentry hmatch'
  refine ⟨?_, hbytes⟩
  obtain hsame | hlonger | hlonger := continues_of_matches (htable.names entry hentry)
    (htable.names _ hmem) hmatch' (by rw [hmatch]; rfl)
  · rw [hsame]
  · exact absurd hbytes (Nat.not_le_of_lt hlonger.lt.2)
  · exact Nat.le_of_lt hlonger.lt.1

/-- There is no more than one longest match. -/
theorem LongestMatch.unique (htable : IsNameTable table) {name' : String} {value' : T}
    {rest' : Text} (h : LongestMatch line table name value rest)
    (h' : LongestMatch line table name' value' rest') : value = value' ∧ rest = rest' := by
  have hmatch : (keyword? line name).isSome := by rw [h.matches_line]; rfl
  have hmatch' : (keyword? line name').isSome := by rw [h'.matches_line]; rfl
  have hlength : name.length = name'.length :=
    Nat.le_antisymm (h'.longest _ h.mem hmatch).1 (h.longest _ h'.mem hmatch').1
  obtain ⟨rfl, rfl⟩ :=
    Prod.mk.inj (htable.eq_of_length h.mem h'.mem hmatch hmatch' (.inl hlength))
  exact ⟨rfl, Option.some.inj (h.matches_line.symm.trans h'.matches_line)⟩

/-- What a table finds is the longest entry that matches. -/
theorem tableKeyword?_eq_some_iff (htable : IsNameTable table) :
    tableKeyword? line table = some (value, rest) ↔
      ∃ name, LongestMatch line table name value rest := by
  constructor
  · intro h
    obtain ⟨⟨name, _, _⟩, hfound, hresult⟩ := Option.map_eq_some_iff.mp h
    obtain ⟨rfl, rfl⟩ := Prod.mk.inj hresult
    exact ⟨name, htable.longestMatch hfound⟩
  · rintro ⟨name, h⟩
    have hsome := longest?_isSome_iff.mpr ⟨_, h.mem, by rw [h.matches_line]; rfl⟩
    obtain ⟨⟨name', value', rest'⟩, hfound⟩ := Option.isSome_iff_exists.mp hsome
    obtain ⟨rfl, rfl⟩ := LongestMatch.unique htable h (htable.longestMatch hfound)
    rw [tableKeyword?, hfound]
    rfl

/-- The order of a table does not matter. -/
theorem IsNameTable.perm (htable : IsNameTable table) (hperm : table'.Perm table) :
    IsNameTable table' where
  names entry hmem := htable.names entry (hperm.mem_iff.mp hmem)
  distinct := (hperm.map Prod.fst).nodup_iff.mpr htable.distinct

theorem LongestMatch.perm (h : LongestMatch line table name value rest)
    (hperm : table'.Perm table) : LongestMatch line table' name value rest where
  mem := hperm.mem_iff.mpr h.mem
  matches_line := h.matches_line
  longest entry hmem := h.longest entry (hperm.mem_iff.mp hmem)

/-- A table of different names finds something if one of its names matches.  What it finds is the
    value of the longest name that does, and what that name leaves.  No two names that match are
    equally long, and the order of the table does not matter. -/
theorem tableKeyword?_longest (htable : IsNameTable table) (line : Text) :
    ((tableKeyword? line table).isSome ↔ ∃ entry ∈ table, (keyword? line entry.1).isSome) ∧
    (∀ value rest, tableKeyword? line table = some (value, rest) ↔
      ∃ name, LongestMatch line table name value rest) ∧
    (∀ entry ∈ table, ∀ entry' ∈ table, entry ≠ entry' → (keyword? line entry.1).isSome →
      (keyword? line entry'.1).isSome → entry.1.length ≠ entry'.1.length ∧
        entry.1.utf8ByteSize ≠ entry'.1.utf8ByteSize) ∧
    ∀ table', table'.Perm table → tableKeyword? line table' = tableKeyword? line table := by
  refine ⟨?_, fun value rest => tableKeyword?_eq_some_iff htable, ?_, ?_⟩
  · rw [tableKeyword?, Option.isSome_map, longest?_isSome_iff]
  · intro entry hmem entry' hmem' hne h h'
    exact ⟨fun hlength => hne (htable.eq_of_length hmem hmem' h h' (.inl hlength)),
      fun hsize => hne (htable.eq_of_length hmem hmem' h h' (.inr hsize))⟩
  · intro table' hperm
    apply Option.ext
    rintro ⟨value, rest⟩
    rw [tableKeyword?_eq_some_iff htable, tableKeyword?_eq_some_iff (htable.perm hperm)]
    constructor
    · rintro ⟨name, h⟩
      exact ⟨name, h.perm hperm.symm⟩
    · rintro ⟨name, h⟩
      exact ⟨name, h.perm hperm⟩

end Tables

/-! ## Comparison functions -/

/-- The names of comparisons are words and distinct. -/
theorem isNameTable_comparisons : IsNameTable ComparisonFunc.table where
  names entry hmem := by
    have hall : ∀ entry ∈ ComparisonFunc.table, words entry.1.toList ≠ [] ∧
        (∀ w ∈ words entry.1.toList, w.IsSolid) ∧
        entry.1.toList = phrase (words entry.1.toList) := by decide
    exact ⟨words entry.1.toList, hall entry hmem⟩
  distinct := by decide

/-- The longer of two names that begin alike is found in front of a parenthesis, also if the table
    is turned around. -/
theorem tableKeyword?_longest_comparison :
    IsNameTable ComparisonFunc.table ∧
    LongestMatch "\tless \t equal(0.5)".toList ComparisonFunc.table "less equal" .lessEqual
      "(0.5)".toList ∧
    tableKeyword? "\tless \t equal(0.5)".toList ComparisonFunc.table.reverse =
      some (.lessEqual, "(0.5)".toList) := by
  obtain ⟨-, hfound, -, hperm⟩ :=
    tableKeyword?_longest isNameTable_comparisons "\tless \t equal(0.5)".toList
  have htable : tableKeyword? "\tless \t equal(0.5)".toList ComparisonFunc.table =
      some (.lessEqual, "(0.5)".toList) := by decide
  refine ⟨isNameTable_comparisons, ?_, ?_⟩
  · obtain ⟨name, hlongest⟩ := (hfound _ _).mp htable
    have hmem : name = "less equal" := by
      have hall : ∀ entry ∈ ComparisonFunc.table,
          entry.2 = .lessEqual → entry.1 = "less equal" := by decide
      exact hall _ hlongest.mem rfl
    rwa [hmem] at hlongest
  · rw [hperm _ (List.reverse_perm _), htable]

end ShaderConformance
