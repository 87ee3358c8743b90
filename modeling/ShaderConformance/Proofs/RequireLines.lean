import ShaderConformance.Proofs.NameTables
import ShaderConformance.Proofs.Numerals
import ShaderConformance.Proofs.Results
import ShaderConformance.Requirements

/-!
# What the lines of a require block demand

What a line demands is said by its words alone: a bound and its version, the names of options, the
name of a format and what it is needed for, or the name of a feature.  A line is accepted exactly if
its words demand something, and then nothing but this is taken into the block.  Blanks are of any
width, and what demands one thing demands no other.

## Main definitions

- `ShaderModel.IsVersion`: a text that is the version of a model
- `Demand`: what a line of a require block asks for
- `Demand.Says`, `Demand.IsOf`: the words that ask for it, and the lines
- `RequireBlock.taking`: a block with a demand taken in
- `RequireBlock.takeLines`: taking in some lines, all of which are accepted

## Main statements

- `words_of_keyword?`, `keyword?_of_words`: a keyword is matched by its words
- `ShaderModel.parse_eq_ok_iff`: a model is read where its version is written
- `RequireBlock.takeLine_eq_iff`: the lines that are accepted, and what they change
- `RequireBlock.takeLines_eq_some_iff`: the blocks that are accepted
- `RequireBlock.isOf_unique`: a line makes one demand
-/

namespace ShaderConformance

open Text

/-! ## Lines of words -/

section Words

variable {line behind rest s : Text} {ws us more : List Text} {keyword : String}

/-- A text without words is blank. -/
theorem words_eq_nil_iff : words s = [] ↔ trimStart s = [] := by
  constructor
  · intro h
    cases hnext : nextWord? s with
    | none => exact trimStart_of_nextWord? hnext
    | some found =>
      rw [words_of_nextWord? hnext] at h
      cases h
  · intro h
    rw [← words_trimStart, h]
    rfl

/-- A line ends where no word is left. -/
theorem endOfLine_eq_ok_iff : endOfLine s = .ok () ↔ words s = [] := by
  refine ⟨words_eq_nil_of_endOfLine, fun h => if_pos ?_⟩
  rw [isBlankLine, List.all_eq_true]
  exact List.dropWhile_eq_nil_iff.mp (words_eq_nil_iff.mp h)

/-- No character of a solid text ends a word. -/
theorem Text.IsSolid.stops {w : Text} (hw : w.IsSolid) : w.Stops endsWord := by
  obtain ⟨c, cs, rfl⟩ := List.exists_cons_of_ne_nil hw.nonempty
  exact stops_cons_iff.mpr (hw.solid c List.mem_cons_self)

/-- What begins with a text that is not empty begins like it. -/
theorem Text.Stops.append {p : Char → Bool} {w : Text} (h : w.Stops p) (hne : w ≠ []) (s : Text) :
    (w ++ s).Stops p := by
  obtain ⟨c, cs, rfl⟩ := List.exists_cons_of_ne_nil hne
  exact stops_cons_iff.mpr (stops_cons_iff.mp h)

/-- What stands behind a word, without blanks, begins like the next one. -/
theorem stops_of_words {p : Char → Bool} (hrest : rest.Stops isBlank)
    (h : ∀ w ∈ (words rest).head?, w.Stops p) : rest.Stops p := by
  have htrim : trimStart rest = rest := dropWhile_of_stops hrest
  cases hwords : words rest with
  | nil =>
    rw [← htrim, words_eq_nil_iff.mp hwords]
    simp [Text.Stops]
  | cons w ws =>
    obtain ⟨left, hnext, -⟩ := words_eq_cons_iff.mp hwords
    obtain ⟨hw, behind, hline, -, -⟩ := nextWord?_eq_some hnext
    rw [← htrim, hline]
    exact Text.Stops.append (h w (by rw [hwords]; rfl)) hw.nonempty behind

/-- A word that does not go on with a parenthesis or a bracket goes on with a blank. -/
theorem betweenWords_of_atBoundary (h : behind.AtBoundary)
    (hstops : (trimStart behind).Stops endsWord) : behind.BetweenWords := by
  cases behind with
  | nil => simp [Text.Stops]
  | cons c cs =>
    have hends : endsWord c = true := by simpa using stops_cons_iff.mp h
    refine stops_cons_iff.mpr ?_
    by_contra hblank
    have htrim : trimStart (c :: cs) = c :: cs :=
      dropWhile_of_stops (stops_cons_iff.mpr (by simpa using hblank))
    rw [htrim, stops_cons_iff, hends] at hstops
    cases hstops

/-- Between words there is a boundary. -/
theorem Text.BetweenWords.atBoundary (h : behind.BetweenWords) : behind.AtBoundary := by
  cases behind with
  | nil => simp [Text.Stops]
  | cons c cs =>
    have hblank : isBlank c = true := by simpa using stops_cons_iff.mp h
    exact stops_cons_iff.mpr (by simp [endsWord, hblank])

/-- Words that match begin the line, unless a parenthesis or a bracket follows them.  By induction
    on the words: the blanks before each of them end the one before it. -/
theorem words_of_keywordWords? (hws : ∀ w ∈ ws, w.IsSolid)
    (h : keywordWords? line ws = some behind) (hbehind : (trimStart behind).Stops endsWord) :
    words line = ws ++ words behind := by
  induction ws generalizing line with
  | nil =>
    obtain rfl := Option.some.inj h
    rfl
  | cons w ws ih =>
    obtain ⟨hw, hmore⟩ := List.forall_mem_cons.mp hws
    obtain ⟨left, ⟨hline, hboundary⟩, hleft⟩ := keywordWords?_cons_iff.mp h
    -- Behind a word stands the next one, or what follows the whole keyword.
    have hstops : (trimStart left).Stops endsWord := by
      cases ws with
      | nil =>
        obtain rfl := Option.some.inj hleft
        exact hbehind
      | cons v ws =>
        obtain ⟨_, ⟨hnext, -⟩, -⟩ := keywordWords?_cons_iff.mp hleft
        rw [hnext]
        have hv := hmore v List.mem_cons_self
        exact hv.stops.append hv.nonempty _
    rw [← words_trimStart, hline,
      words_append hw.isWord (betweenWords_of_atBoundary hboundary hstops), ih hmore hleft,
      List.cons_append]

/-- Words that begin a line match. -/
theorem keywordWords?_of_words (h : words line = ws ++ more) :
    ∃ behind, keywordWords? line ws = some behind ∧ words behind = more := by
  induction ws generalizing line with
  | nil => exact ⟨line, rfl, h⟩
  | cons w ws ih =>
    obtain ⟨rest, hnext, hrest⟩ := words_eq_cons_iff.mp h
    obtain ⟨-, left, hline, hbetween, rfl⟩ := nextWord?_eq_some hnext
    rw [words_trimStart] at hrest
    obtain ⟨behind, hmatch, hbehind⟩ := ih hrest
    exact ⟨behind, keywordWords?_cons_iff.mpr ⟨left, ⟨hline, hbetween.atBoundary⟩, hmatch⟩, hbehind⟩

/-- A keyword that matches begins the line with its words. -/
theorem words_of_keyword? (hwords : words keyword.toList = ws) (hws : ∀ w ∈ ws, w.IsSolid)
    (h : keyword? line keyword = some rest) (hmore : words rest = more)
    (hstops : ∀ w ∈ more.head?, w.Stops endsWord) : words line = ws ++ more := by
  obtain ⟨behind, hmatch, rfl⟩ := Option.map_eq_some_iff.mp h
  rw [rawKeyword?, hwords] at hmatch
  have hbehind := stops_of_words (stops_dropWhile isBlank behind) (hmore ▸ hstops)
  rw [words_of_keywordWords? hws hmatch hbehind, ← hmore, words_trimStart]

/-- A keyword whose words begin a line matches. -/
theorem keyword?_of_words (hwords : words keyword.toList = ws) (h : words line = ws ++ more) :
    ∃ rest, keyword? line keyword = some rest ∧ words rest = more := by
  obtain ⟨behind, hmatch, hmore⟩ := keywordWords?_of_words h
  refine ⟨trimStart behind, ?_, by rw [words_trimStart, hmore]⟩
  rw [keyword?, rawKeyword?, hwords, hmatch]
  rfl

/-- Where a keyword matches, no other one does, unless one begins with the words of the other. -/
theorem keyword?_eq_none_of_other {other : String} (h : keyword? line keyword = some rest)
    (hwords : words keyword.toList = ws) (hother : words other.toList = us)
    (hws : ∀ w ∈ ws, w.IsSolid) (hus : ∀ w ∈ us, w.IsSolid) (hapart : ¬ us <+: ws ∧ ¬ ws <+: us) :
    keyword? line other = none := by
  obtain ⟨behind, hmatch, -⟩ := Option.map_eq_some_iff.mp h
  rw [rawKeyword?, hwords] at hmatch
  rw [keyword?, Option.map_eq_none_iff, rawKeyword?, hother, Option.eq_none_iff_forall_ne_some]
  intro left hleft
  obtain hinit | hinit := prefix_or_prefix hus hws hleft hmatch
  · exact hapart.1 hinit
  · exact hapart.2 hinit

end Words

/-! ## Versions -/

/-- A text that is the version of a model: its numbers with a point between them, or the first
    one if the other one is zero. -/
inductive ShaderModel.IsVersion (m : ShaderModel) : Text → Prop
  | full {s t : Text} (hmajor : SignedNumeral 10 s m.version.1.toNat)
      (hminor : SignedNumeral 10 t m.version.2.toNat) : IsVersion m (s ++ '.' :: t)
  | major {s : Text} (hmajor : SignedNumeral 10 s m.version.1.toNat) (hminor : m.version.2 = 0) :
      IsVersion m s

section Versions

variable {s w : Text} {m : ShaderModel}

/-- A word is read if it is a numeral with its value. -/
theorem uint32?_eq_some_iff {n : UInt32} : uint32? s = some n ↔ SignedNumeral 10 s n.toNat := by
  rw [uint32?, Option.map_eq_some_iff]
  constructor
  · rintro ⟨value, hvalue, rfl⟩
    obtain ⟨hnumeral, hlt⟩ := (unsigned?_eq_some_iff (by decide)).mp hvalue
    rwa [UInt32.toNat_ofNat_of_lt' hlt]
  · intro h
    exact ⟨n.toNat, (unsigned?_eq_some_iff (by decide)).mpr ⟨h, n.toNat_lt⟩, UInt32.ofNat_toNat⟩

/-- There is no point in a numeral. -/
theorem not_mem_of_signedNumeral {n : Nat} (h : SignedNumeral 10 s n) : '.' ∉ s :=
  h.not_mem (by decide) (by decide) rfl

/-- Without its separator a text is not split. -/
theorem splitFirst?_of_not_mem {separator : Char} (h : separator ∉ s) :
    splitFirst? separator s = none := by
  induction s with
  | nil => rfl
  | cons c cs ih =>
    obtain ⟨hc, hcs⟩ := not_or.mp (mt List.mem_cons.mpr h)
    rw [splitFirst?, if_neg (Ne.symm hc), ih hcs, Option.map_none]

/-- A text is split at its separator. -/
theorem eq_append_of_splitFirst? {separator : Char} {before behind : Text}
    (h : splitFirst? separator s = some (before, behind)) : s = before ++ separator :: behind := by
  induction s generalizing before with
  | nil => cases h
  | cons c cs ih =>
    rw [splitFirst?] at h
    split at h
    · rename_i hc
      obtain ⟨rfl, rfl⟩ := Prod.mk.inj (Option.some.inj h)
      rw [hc, List.nil_append]
    · obtain ⟨⟨front, back⟩, hmore, heq⟩ := Option.map_eq_some_iff.mp h
      obtain ⟨rfl, rfl⟩ := Prod.mk.inj heq
      rw [ih hmore, List.cons_append]

/-- A model is found by its version. -/
theorem ShaderModel.find?_version_eq_some_iff {version : UInt32 × UInt32} :
    ShaderModel.all.find? (·.version = version) = some m ↔ m.version = version := by
  constructor
  · intro h
    simpa using List.find?_some h
  · rintro rfl
    cases m <;> rfl

/-- Two numbers that name a model are its version. -/
theorem ShaderModel.parse_eq_ok_iff_of_split {before behind : Text}
    (hsplit : (splitFirst? '.' s).getD (s, ['0']) = (before, behind)) :
    ShaderModel.parse s = .ok m ↔
      SignedNumeral 10 before m.version.1.toNat ∧ SignedNumeral 10 behind m.version.2.toNat := by
  rw [ShaderModel.parse, hsplit, ← uint32?_eq_some_iff, ← uint32?_eq_some_iff]
  dsimp only
  cases uint32? before with
  | none => simp
  | some major =>
    cases uint32? behind with
    | none => simp
    | some minor =>
      dsimp only
      have hversion : m.version = (major, minor) ↔ some major = some m.version.1 ∧
          some minor = some m.version.2 := by
        rw [Prod.ext_iff, Option.some.injEq, Option.some.injEq, eq_comm, @eq_comm _ minor]
      rw [← hversion, ← find?_version_eq_some_iff]
      cases ShaderModel.all.find? (·.version = (major, minor)) <;> simp

/-- A model is read where its version is written. -/
theorem ShaderModel.parse_eq_ok_iff : ShaderModel.parse s = .ok m ↔ m.IsVersion s := by
  -- A version without a minor number is read as one with the minor number zero.
  have hzero : SignedNumeral 10 ['0'] m.version.2.toNat ↔ m.version.2 = 0 := by
    rw [← uint32?_eq_some_iff, show uint32? ['0'] = some 0 from rfl, Option.some.injEq, eq_comm]
  constructor
  · intro h
    cases hsplit : splitFirst? '.' s with
    | none =>
      obtain ⟨hmajor, hminor⟩ := (parse_eq_ok_iff_of_split (by rw [hsplit, Option.getD_none])).mp h
      exact .major hmajor (hzero.mp hminor)
    | some parts =>
      obtain ⟨before, behind⟩ := parts
      obtain ⟨hmajor, hminor⟩ := (parse_eq_ok_iff_of_split (by rw [hsplit, Option.getD_some])).mp h
      rw [eq_append_of_splitFirst? hsplit]
      exact .full hmajor hminor
  · rintro (⟨hmajor, hminor⟩ | ⟨hmajor, hminor⟩)
    · have hsplit := splitFirst?_append (not_mem_of_signedNumeral hmajor)
      exact (parse_eq_ok_iff_of_split (by rw [hsplit, Option.getD_some])).mpr ⟨hmajor, hminor⟩
    · have hsplit := splitFirst?_of_not_mem (not_mem_of_signedNumeral hmajor)
      exact (parse_eq_ok_iff_of_split (by rw [hsplit, Option.getD_none])).mpr
        ⟨hmajor, hzero.mpr hminor⟩

/-- No digit ends a word. -/
theorem endsWord_of_isDigit {c : Char} (h : c.isDigit = true) : endsWord c = false := by
  rw [Char.isDigit_iff_toNat] at h
  have hzero : '0'.toNat = 48 := rfl
  have hnine : '9'.toNat = 57 := rfl
  simp only [endsWord, isBlank, Bool.or_eq_false_iff, Bool.and_eq_false_iff,
    decide_eq_false_iff_not, beq_eq_false_iff_ne, ne_eq, ← Char.toNat_inj, Char.reduceToNat]
  omega

/-- A numeral begins with a digit or a sign. -/
theorem stops_of_signedNumeral {n : Nat} (h : SignedNumeral 10 s n) (t : Text) :
    (s ++ t).Stops endsWord := by
  cases s with
  | nil =>
    cases h with
    | plain h => exact absurd rfl h.ne_nil
  | cons c cs =>
    refine stops_cons_iff.mpr ?_
    obtain rfl | ⟨d, hd⟩ := h.eq_plus_or c List.mem_cons_self
    · rfl
    · exact endsWord_of_isDigit hd.isDigit

/-- No character of a version ends a word. -/
theorem ShaderModel.IsVersion.stops (h : m.IsVersion w) : w.Stops endsWord := by
  cases h with
  | full hmajor _ => exact stops_of_signedNumeral hmajor _
  | @major s hmajor _ =>
    have hstops := stops_of_signedNumeral hmajor []
    rwa [List.append_nil] at hstops

end Versions

/-! ## Demands -/

/-- What a line of a require block asks for. -/
inductive Demand where
  /-- A bound that includes its model. -/
  | atLeast (model : ShaderModel)
  /-- A bound that excludes its model. -/
  | below (model : ShaderModel)
  | options (options : CompileOptions)
  | uavLoad (format : Format)
  | feature (feature : Feature)

/-- The options whose names are among some words. -/
def CompileOptions.named (words : List Text) : CompileOptions where
  has option := decide (option.name.toList ∈ words)

namespace Demand

/-- The words of a line that makes a demand. -/
inductive Says : Demand → List Text → Prop
  | atLeast {m : ShaderModel} {w : Text} (h : m.IsVersion w) :
      Says (.atLeast m) ["shader".toList, "model".toList, ">=".toList, w]
  /-- No model is below the oldest one. -/
  | below {m : ShaderModel} {w : Text} (h : m.IsVersion w) (hbelow : m ≠ .oldest) :
      Says (.below m) ["shader".toList, "model".toList, "<".toList, w]
  /-- The names of options, in any number and order. -/
  | options {ws : List Text} (h : ∀ w ∈ ws, ∃ option : CompileOption, w = option.name.toList) :
      Says (.options (.named ws)) ("options:".toList :: ws)
  | uavLoad (f : Format) : Says (.uavLoad f) ["format".toList, f.name.toList, "uav-load".toList]
  | feature (f : Feature) : Says (.feature f) [f.name.toList]

/-- The demand that a line makes. -/
def IsOf (demand : Demand) (line : Text) : Prop := demand.Says (words line)

/-- A demand is that of every line with its words. -/
theorem Says.isOf {demand : Demand} {ws : List Text} {line : Text} (h : demand.Says ws)
    (hline : words line = ws) : demand.IsOf line := by
  rw [IsOf, hline]
  exact h

def lowerBound? : Demand → Option ShaderModel
  | atLeast model => some model
  | _ => none

def upperBound? : Demand → Option ShaderModel
  | below model => some model
  | _ => none

def options? : Demand → Option CompileOptions
  | .options o => some o
  | _ => none

def uavLoad? : Demand → Option Format
  | .uavLoad f => some f
  | _ => none

def feature? : Demand → Option Feature
  | .feature f => some f
  | _ => none

/-- A runner lacks what is demanded. -/
def IsMissing (caps : Capabilities) : Demand → Prop
  | .uavLoad f => caps.uavLoad f = false
  | .feature f => caps.has f = false
  | _ => False

end Demand

/-! ## Names -/

section Names

variable {name : Text}

/-- An option is found by its name. -/
theorem CompileOption.ofName?_eq_some_iff {option : CompileOption} :
    ofName? (String.ofList name) = some option ↔ name = option.name.toList := by
  constructor
  · intro h
    have hname : option.name = String.ofList name := by simpa using List.find?_some h
    rw [hname, String.toList_ofList]
  · rintro rfl
    rw [String.ofList_toList]
    cases option <;> rfl

/-- No two options have the same name. -/
theorem CompileOption.name_toList_inj {a b : CompileOption} :
    a.name.toList = b.name.toList ↔ a = b := by
  constructor
  · intro h
    exact Option.some.inj ((ofName?_eq_some_iff.mpr rfl).symm.trans (ofName?_eq_some_iff.mpr h))
  · rintro rfl
    rfl

/-- A format is found by its name. -/
theorem Format.ofName?_eq_some_iff {f : Format} :
    ofName? (String.ofList name) = some f ↔ name = f.name.toList := by
  constructor
  · intro h
    have hname : f.name = String.ofList name := by simpa using List.find?_some h
    rw [hname, String.toList_ofList]
  · rintro rfl
    rw [String.ofList_toList]
    cases f <;> rfl

/-- No name of an option or a format begins with a character that ends words. -/
theorem CompileOption.isSolid_name (option : CompileOption) : IsSolid option.name.toList := by
  cases option <;> decide

/-- The name of a format is one word. -/
theorem Format.isSolid_name (f : Format) : IsSolid f.name.toList := by
  cases f <;> decide

/-- The name of a feature is one word. -/
theorem Feature.isSolid_name (f : Feature) : IsSolid f.name.toList := by
  cases f <;> decide

/-- No feature is named as another one. -/
theorem Feature.isKeywordTable_table : IsKeywordTable Feature.table := by decide

/-- The name of a feature is its only word. -/
theorem Feature.words_name (f : Feature) : words f.name.toList = [f.name.toList] := by
  cases f <;> decide

/-- The table has every feature under its name. -/
theorem Feature.mem_table {f : Feature} {name : String} :
    (name, f) ∈ Feature.table ↔ name = f.name := by
  rw [table, List.mem_map]
  constructor
  · rintro ⟨_, -, heq⟩
    obtain ⟨rfl, rfl⟩ := Prod.mk.inj heq
    rfl
  · rintro rfl
    exact ⟨f, by cases f <;> decide, rfl⟩

end Names

/-! ## Lines that are accepted -/

namespace RequireBlock

section Readers

variable {line rest : Text} {m : ShaderModel}

/-- A model is read if a version is the only word. -/
theorem model_eq_ok_iff : model rest = .ok m ↔ ∃ w, words rest = [w] ∧ m.IsVersion w := by
  unfold model
  constructor
  · intro h
    split at h
    · cases h
    · rename_i word left hnext
      obtain ⟨⟨⟩, hend, hparse⟩ := bind_eq_ok_iff.mp h
      split at hparse
      · rename_i model hmodel
        obtain rfl := Except.ok.inj hparse
        -- Nothing but blanks stands behind the word, so it is the line's only one.
        refine ⟨word, ?_, ShaderModel.parse_eq_ok_iff.mp hmodel⟩
        rw [words_of_nextWord? hnext, words_eq_nil_of_endOfLine hend]
      · cases hparse
  · rintro ⟨w, hwords, hversion⟩
    obtain ⟨left, hnext, hleft⟩ := words_eq_cons_iff.mp hwords
    rw [hnext]
    dsimp only
    rw [endOfLine_eq_ok_iff.mpr hleft, ShaderModel.parse_eq_ok_iff.mpr hversion]
    rfl

/-- A bound is read if a version is the only word, and not the oldest one. -/
theorem belowLine_eq_ok_iff :
    belowLine rest = .ok m ↔ ∃ w, words rest = [w] ∧ m.IsVersion w ∧ m ≠ .oldest := by
  have hread : belowLine rest = .ok m ↔ model rest = .ok m ∧ m ≠ .oldest := by
    rw [belowLine, bind_eq_ok_iff]
    constructor
    · rintro ⟨read, hread, h⟩
      split at h
      · cases h
      · rename_i hbelow
        obtain rfl := Except.ok.inj h
        exact ⟨hread, hbelow⟩
    · rintro ⟨hread, hbelow⟩
      exact ⟨m, hread, if_neg hbelow⟩
  rw [hread, model_eq_ok_iff]
  grind

/-- A capability of a format is read by the name of the format and that of the capability. -/
theorem formatLine_eq_ok_iff {f : Format} :
    formatLine rest = .ok f ↔ words rest = [f.name.toList, "uav-load".toList] := by
  have hname : words "uav-load".toList = ["uav-load".toList] := by decide
  unfold formatLine
  constructor
  · intro h
    split at h
    · cases h
    rename_i name left hnext
    split at h
    · cases h
    rename_i format hformat
    split at h
    · cases h
    rename_i behind hcapability
    obtain ⟨⟨⟩, hend, rfl⟩ := map_eq_ok_iff.mp h
    -- Both words of the line are known, and nothing stands behind them.
    rw [words_of_nextWord? hnext, Format.ofName?_eq_some_iff.mp hformat]
    rw [words_of_keyword? hname (by decide) hcapability (words_eq_nil_of_endOfLine hend) nofun]
    rfl
  · intro h
    obtain ⟨left, hnext, hleft⟩ := words_eq_cons_iff.mp h
    obtain ⟨behind, hcapability, hbehind⟩ := keyword?_of_words hname hleft
    rw [hnext]
    dsimp only
    rw [Format.ofName?_eq_some_iff.mpr rfl]
    dsimp only
    rw [hcapability]
    dsimp only
    rw [endOfLine_eq_ok_iff.mpr hbehind]
    rfl

/-- A feature is read if its name is the only word. -/
theorem featureLine_eq_ok_iff {f : Feature} :
    featureLine line = .ok f ↔ words line = [f.name.toList] := by
  have hkeyword (f : Feature) : IsKeyword f.name.toList :=
    Feature.isKeywordTable_table.keywords _ (Feature.mem_table.mpr rfl)
  unfold featureLine
  constructor
  · intro h
    split at h
    · cases h
    rename_i found rest hfound
    obtain ⟨⟨⟩, hend, rfl⟩ := map_eq_ok_iff.mp h
    obtain ⟨⟨name, _, _⟩, hlongest, heq⟩ := Option.map_eq_some_iff.mp hfound
    obtain ⟨rfl, rfl⟩ := Prod.mk.inj heq
    -- The longest entry found is an entry, and every entry is a feature's name.
    obtain ⟨hmem, hmatch⟩ := longest?_mem hlongest
    obtain rfl := Feature.mem_table.mp hmem
    exact words_of_keyword? (Feature.words_name _)
      (List.forall_mem_singleton.mpr (Feature.isSolid_name _)) hmatch
      (words_eq_nil_of_endOfLine hend) nofun
  · intro h
    obtain ⟨rest, hmatch, hrest⟩ := keyword?_of_words f.words_name h
    -- Names are single words, so the line's first word decides the entry.
    rw [keyword?_eq (hkeyword f)] at hmatch
    split at hmatch
    · rename_i hleading
      obtain rfl := Option.some.inj hmatch
      rw [tableKeyword?_of_mem Feature.isKeywordTable_table (Feature.mem_table.mpr rfl) hleading]
      dsimp only
      rw [endOfLine_eq_ok_iff.mpr hrest]
      rfl
    · cases hmatch

end Readers

section Options

variable {words : List Text} {options options' : CompileOptions}

/-- Option names are read up to the first unknown one. -/
theorem optionWords_eq_iff : optionWords words options = (options', none) ↔
    (∀ w ∈ words, ∃ option : CompileOption, w = option.name.toList) ∧
      options' = ⟨fun option => (CompileOptions.named words).has option || options.has option⟩ := by
  induction words generalizing options with
  | nil =>
    rw [optionWords, Prod.mk.injEq]
    exact ⟨fun h => ⟨nofun, by simpa [CompileOptions.named] using h.1.symm⟩,
      fun h => ⟨by simpa [CompileOptions.named] using h.2.symm, rfl⟩⟩
  | cons word more ih =>
    rw [optionWords, List.forall_mem_cons]
    cases hname : CompileOption.ofName? (String.ofList word) with
    | none =>
      have hunknown : ¬ ∃ option : CompileOption, word = option.name.toList := by
        rintro ⟨option, hword⟩
        rw [CompileOption.ofName?_eq_some_iff.mpr hword] at hname
        cases hname
      simp [hunknown]
    | some option =>
      have hword := CompileOption.ofName?_eq_some_iff.mp hname
      -- The first word adds its option, and the others theirs.
      have hinsert : (fun x => (CompileOptions.named more).has x || (options.insert option).has x) =
          fun x => (CompileOptions.named (word :: more)).has x || options.has x := by
        funext x
        have hsame : x.name.toList = word ↔ x = option := hword ▸ CompileOption.name_toList_inj
        simp only [CompileOptions.named, CompileOptions.insert, List.mem_cons, hsame,
          Bool.decide_or]
        grind
      rw [ih, hinsert]
      exact and_congr_left fun _ => (and_iff_right ⟨option, hword⟩).symm

/-- The options of a line are set anew, so nothing is left of earlier ones. -/
theorem optionWords_none_eq_iff : optionWords words .none = (options, none) ↔
    (∀ w ∈ words, ∃ option : CompileOption, w = option.name.toList) ∧ options = .named words := by
  rw [optionWords_eq_iff]
  simp [CompileOptions.none]

end Options

variable {b b' : RequireBlock} {line : Text} {lines : List Text}

/-- The block with a demand taken in. -/
def taking (b : RequireBlock) : Demand → RequireBlock
  | .atLeast model => { b with minimumModel := some model }
  | .below model => { b with belowModel := some model }
  | .options options => { b with options }
  | .uavLoad format => { b with uavLoads := b.uavLoads ++ [format] }
  | .feature feature => { b with features := b.features ++ [feature] }

/-- Takes some lines into a block, if all of them are accepted. -/
def takeLines (b : RequireBlock) : List Text → Option RequireBlock
  | [] => some b
  | line :: more =>
    match b.takeLine line with
    | (b, none) => b.takeLines more
    | (_, some _) => none

/-- A block takes what a reader has found. -/
theorem take_eq_iff {T : Type} {result : Except Fault T} {apply : T → RequireBlock} :
    b.take result apply = (b', none) ↔ ∃ value, result = .ok value ∧ b' = apply value := by
  cases result with
  | error fault => simp [take]
  | ok value => simp [take, eq_comm]

section Lines

/-- The words of the keywords that lines begin with. -/
theorem words_keywords :
    words "shader model >=".toList = ["shader".toList, "model".toList, ">=".toList] ∧
      words "shader model <".toList = ["shader".toList, "model".toList, "<".toList] ∧
      words "options:".toList = ["options:".toList] ∧
      words "format".toList = ["format".toList] := by decide

/-- An accepted line makes a demand, which the block takes in. -/
theorem exists_demand_of_takeLine (h : b.takeLine line = (b', none)) :
    ∃ demand : Demand, demand.IsOf line ∧ b' = b.taking demand := by
  obtain ⟨hatLeast, hbelow, hoptions, hformat⟩ := words_keywords
  unfold takeLine at h
  -- The readers are tried in the order of their keywords; the last is that of the features.
  split at h
  · rename_i rest hmatch
    obtain ⟨m, hread, rfl⟩ := take_eq_iff.mp h
    obtain ⟨w, hrest, hversion⟩ := model_eq_ok_iff.mp hread
    have hline := words_of_keyword? hatLeast (by decide) hmatch hrest
      (by simpa using hversion.stops)
    exact ⟨.atLeast m, (Demand.Says.atLeast hversion).isOf hline, rfl⟩
  split at h
  · rename_i rest hmatch
    obtain ⟨m, hread, rfl⟩ := take_eq_iff.mp h
    obtain ⟨w, hrest, hversion, holdest⟩ := belowLine_eq_ok_iff.mp hread
    have hline := words_of_keyword? hbelow (by decide) hmatch hrest
      (by simpa using hversion.stops)
    exact ⟨.below m, (Demand.Says.below hversion holdest).isOf hline, rfl⟩
  split at h
  · rename_i rest hmatch
    obtain ⟨hblock, hfault⟩ := Prod.mk.inj h
    obtain ⟨hnames, hnamed⟩ := optionWords_none_eq_iff.mp (Prod.ext rfl hfault)
    have hline := words_of_keyword? hoptions (by decide) hmatch rfl fun w hw => by
      obtain ⟨option, rfl⟩ := hnames w (List.mem_of_head? hw)
      exact (CompileOption.isSolid_name option).stops
    refine ⟨.options (.named (words rest)), (Demand.Says.options hnames).isOf hline, ?_⟩
    rw [← hblock, taking, ← hnamed]
  split at h
  · rename_i rest hmatch
    obtain ⟨f, hread, rfl⟩ := take_eq_iff.mp h
    have hrest := formatLine_eq_ok_iff.mp hread
    have hline := words_of_keyword? hformat (by decide) hmatch hrest
      (by simpa using (Format.isSolid_name f).stops)
    exact ⟨.uavLoad f, (Demand.Says.uavLoad f).isOf hline, rfl⟩
  · obtain ⟨f, hread, rfl⟩ := take_eq_iff.mp h
    exact ⟨.feature f, (Demand.Says.feature f).isOf (featureLine_eq_ok_iff.mp hread), rfl⟩

/-- A line that makes a demand is accepted, and the block takes the demand in. -/
theorem takeLine_of_isOf {demand : Demand} (h : demand.IsOf line) :
    b.takeLine line = (b.taking demand, none) := by
  obtain ⟨hatLeast, hbelow, hoptions, hformat⟩ := words_keywords
  unfold Demand.IsOf at h
  generalize hline : words line = ws at h
  unfold takeLine
  -- The keywords that are tried before the one of the line do not match.
  cases h with
  | atLeast hversion =>
    obtain ⟨rest, hmatch, hrest⟩ := keyword?_of_words hatLeast hline
    rw [hmatch]
    exact take_eq_iff.mpr ⟨_, model_eq_ok_iff.mpr ⟨_, hrest, hversion⟩, rfl⟩
  | below hversion holdest =>
    obtain ⟨rest, hmatch, hrest⟩ := keyword?_of_words hbelow hline
    rw [keyword?_eq_none_of_other hmatch hbelow hatLeast (by decide) (by decide) (by decide),
      hmatch]
    exact take_eq_iff.mpr ⟨_, belowLine_eq_ok_iff.mpr ⟨_, hrest, hversion, holdest⟩, rfl⟩
  | options hnames =>
    obtain ⟨rest, hmatch, rfl⟩ := keyword?_of_words hoptions hline
    rw [keyword?_eq_none_of_other hmatch hoptions hatLeast (by decide) (by decide) (by decide),
      keyword?_eq_none_of_other hmatch hoptions hbelow (by decide) (by decide) (by decide), hmatch]
    dsimp only
    rw [optionWords_none_eq_iff.mpr ⟨hnames, rfl⟩]
    rfl
  | uavLoad f =>
    obtain ⟨rest, hmatch, hrest⟩ := keyword?_of_words hformat hline
    rw [keyword?_eq_none_of_other hmatch hformat hatLeast (by decide) (by decide) (by decide),
      keyword?_eq_none_of_other hmatch hformat hbelow (by decide) (by decide) (by decide),
      keyword?_eq_none_of_other hmatch hformat hoptions (by decide) (by decide) (by decide), hmatch]
    exact take_eq_iff.mpr ⟨f, formatLine_eq_ok_iff.mpr hrest, rfl⟩
  | feature f =>
    have hname := f.words_name
    have hsolid := List.forall_mem_singleton.mpr f.isSolid_name
    obtain ⟨rest, hmatch, -⟩ := keyword?_of_words hname hline
    rw [keyword?_eq_none_of_other hmatch hname hatLeast hsolid (by decide) (by cases f <;> decide),
      keyword?_eq_none_of_other hmatch hname hbelow hsolid (by decide) (by cases f <;> decide),
      keyword?_eq_none_of_other hmatch hname hoptions hsolid (by decide) (by cases f <;> decide),
      keyword?_eq_none_of_other hmatch hname hformat hsolid (by decide) (by cases f <;> decide)]
    exact take_eq_iff.mpr ⟨f, featureLine_eq_ok_iff.mpr hline, rfl⟩

/-- A line is accepted if it makes a demand, and then the block takes in the demand and nothing
    else. -/
theorem takeLine_eq_iff :
    b.takeLine line = (b', none) ↔ ∃ demand : Demand, demand.IsOf line ∧ b' = b.taking demand := by
  refine ⟨exists_demand_of_takeLine, ?_⟩
  rintro ⟨demand, hdemand, rfl⟩
  exact takeLine_of_isOf hdemand

/-- A line makes one demand: a block that takes it in shows which. -/
theorem isOf_unique {demand demand' : Demand} (h : demand.IsOf line) (h' : demand'.IsOf line) :
    demand = demand' := by
  have htaking : fresh.taking demand = fresh.taking demand' :=
    (Prod.mk.inj ((takeLine_of_isOf h).symm.trans (takeLine_of_isOf h'))).1
  cases demand <;> cases demand' <;> simp_all [taking, fresh]

/-- Lines that make demands are accepted, and the block takes in one demand after the other. -/
theorem takeLines_of_isOf {demands : List Demand} (h : List.Forall₂ Demand.IsOf demands lines) :
    b.takeLines lines = some (demands.foldl taking b) := by
  induction h generalizing b with
  | nil => rfl
  | cons hdemand _ ih =>
    rw [takeLines, takeLine_of_isOf hdemand]
    exact ih

/-- Lines are accepted if each of them makes a demand. -/
theorem takeLines_eq_some_iff : b.takeLines lines = some b' ↔
    ∃ demands, List.Forall₂ Demand.IsOf demands lines ∧ b' = demands.foldl taking b := by
  constructor
  · intro h
    induction lines generalizing b with
    | nil => exact ⟨[], .nil, (Option.some.inj h).symm⟩
    | cons line more ih =>
      rw [takeLines] at h
      split at h
      · rename_i next hline
        obtain ⟨demand, hdemand, rfl⟩ := takeLine_eq_iff.mp hline
        obtain ⟨demands, hmore, rfl⟩ := ih h
        exact ⟨demand :: demands, .cons hdemand hmore, rfl⟩
      · cases h
  · rintro ⟨demands, hdemands, rfl⟩
    exact takeLines_of_isOf hdemands

end Lines

end RequireBlock

end ShaderConformance
