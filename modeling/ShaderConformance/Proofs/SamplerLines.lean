import ShaderConformance.Proofs.Results
import ShaderConformance.Sampler.Block

/-!
# What a sampler is made of

Address lines, filter lines and comparison lines all write to one sampler, and two of them write
the flag that makes it compare.  The flag agrees with the comparison function after any lines,
refused ones included.  If all lines are accepted, then the sampler is made of the last line of
each kind, so lines of different kinds can be given in any order.

## Main definitions

- `SamplerSetting`: what a line of a sampler block sets
- `SamplerDesc.afterLines`: a sampler after some lines, of which any may be refused
- `SamplerDesc.takeLines`: taking in some lines, all of which are accepted
- `SamplerDesc.madeOf`: the sampler that the last settings make

## Main statements

- `SamplerDesc.takeLine_eq_iff`: the lines that are accepted, and what they change
- `SamplerDesc.compares_takeLine`: no line, accepted or not, parts the flag from the function
- `SamplerDesc.made_of_lines`: what a sampler is after all lines
-/

namespace ShaderConformance

open Text

/-! ## Settings -/

/-- What a line of a sampler block sets. -/
inductive SamplerSetting where
  | address (modes : PerCoordinate AddressMode)
  /-- The filters of minification, magnification and mip selection. -/
  | filter (modes : FilterMode × FilterMode × FilterMode)
  | comparison (func : ComparisonFunc)
deriving DecidableEq

namespace SamplerSetting

/-- The kinds of settings. -/
inductive Kind where
  | address
  | filter
  | comparison
deriving DecidableEq

def kind : SamplerSetting → Kind
  | .address _ => .address
  | .filter _ => .filter
  | .comparison _ => .comparison

def address? : SamplerSetting → Option (PerCoordinate AddressMode)
  | .address modes => some modes
  | _ => none

def filter? : SamplerSetting → Option (FilterMode × FilterMode × FilterMode)
  | .filter modes => some modes
  | _ => none

def comparison? : SamplerSetting → Option ComparisonFunc
  | .comparison func => some func
  | _ => none

/-- Reads the address modes of all coordinates. -/
def addressLine (line : Text) : Except Fault (PerCoordinate AddressMode) := do
  let (u, line) ← SamplerDesc.addressMode line
  let (v, line) ← SamplerDesc.addressMode line
  let (w, line) ← SamplerDesc.addressMode line
  endOfLine line
  return { u, v, w }

/-- Reads a line of a sampler block, if it is one. -/
def read? (line : Text) : Option SamplerSetting :=
  match keyword? line "address" with
  | some rest => (addressLine rest).toOption.map .address
  | none =>
    match keyword? line "filter" with
    | some rest => (SamplerDesc.filterLine rest).toOption.map .filter
    | none =>
      match keyword? line "comparison" with
      | some rest => (SamplerDesc.comparisonLine rest).toOption.map .comparison
      | none => none

/-- The last setting of a kind that some lines give. -/
def last? {T : Type} (pick : SamplerSetting → Option T) (lines : List Text) : Option T :=
  ((lines.filterMap read?).filterMap pick).getLast?

/-- Whether a line gives a setting of a kind. -/
def isOf (kind : Kind) (line : Text) : Bool := (read? line).any fun setting => setting.kind = kind

/-- The lines of a kind, in their order. -/
def linesOf (kind : Kind) (lines : List Text) : List Text := lines.filter (isOf kind)

end SamplerSetting

namespace SamplerDesc

variable {s s' : SamplerDesc} {line : Text} {lines lines' : List Text}

/-- The sampler with a setting taken in. -/
def taking (s : SamplerDesc) : SamplerSetting → SamplerDesc
  | .address modes => { s with address := modes }
  | .filter (min, mag, mip) => { s with filter := { min, mag, mip, comparison := s.func.isSome } }
  | .comparison func => { s with func, filter := { s.filter with comparison := true } }

/-- A sampler after some lines, each of which may be refused. -/
def afterLines (s : SamplerDesc) (lines : List Text) : SamplerDesc :=
  lines.foldl (fun s line => (s.takeLine line).1) s

/-- Takes some lines into a sampler, if all of them are accepted. -/
def takeLines (s : SamplerDesc) : List Text → Option SamplerDesc
  | [] => some s
  | line :: more =>
    match s.takeLine line with
    | (s, none) => s.takeLines more
    | (_, some _) => none

/-! ## Accepted lines -/

/-- The modes of an address line are all that it changes. -/
theorem takeAddress_eq_iff :
    s.takeAddress line = (s', none) ↔
      ∃ modes, SamplerSetting.addressLine line = .ok modes ∧ s' = { s with address := modes } := by
  unfold takeAddress SamplerSetting.addressLine
  simp only [bind_eq_ok_iff]
  cases addressMode line with
  | error fault => simp
  | ok first =>
    obtain ⟨u, line⟩ := first
    cases hv : addressMode line with
    | error fault => simp [hv]
    | ok second =>
      obtain ⟨v, line⟩ := second
      cases hw : addressMode line with
      | error fault => simp [hv, hw]
      | ok third =>
        obtain ⟨w, line⟩ := third
        cases hend : endOfLine line <;> simp [hv, hw, hend, pure, Except.pure, eq_comm]

/-- A line is accepted if it reads as a setting, which it makes. -/
theorem takeLine_eq_iff :
    s.takeLine line = (s', none) ↔
      ∃ setting, SamplerSetting.read? line = some setting ∧ s' = s.taking setting := by
  unfold takeLine SamplerSetting.read?
  cases keyword? line "address" with
  | some rest =>
    rw [takeAddress_eq_iff]
    cases hread : SamplerSetting.addressLine rest <;> simp [hread, Except.toOption, taking]
  | none =>
    cases keyword? line "filter" with
    | some rest => cases hread : filterLine rest <;> simp [hread, Except.toOption, taking, eq_comm]
    | none =>
      cases keyword? line "comparison" with
      | some rest =>
        cases hread : comparisonLine rest <;> simp [hread, Except.toOption, taking, eq_comm]
      | none => simp

/-- All lines are accepted if each one reads as a setting. -/
theorem takeLines_eq_some_iff :
    s.takeLines lines = some s' ↔
      (∀ line ∈ lines, (SamplerSetting.read? line).isSome) ∧
        s' = (lines.filterMap SamplerSetting.read?).foldl taking s := by
  induction lines generalizing s with
  | nil =>
    rw [takeLines, Option.some.injEq, List.filterMap_nil, List.foldl_nil]
    exact ⟨fun h => ⟨nofun, h.symm⟩, fun h => h.2.symm⟩
  | cons line more ih =>
    rw [takeLines]
    split
    · rename_i next hline
      obtain ⟨setting, hread, rfl⟩ := takeLine_eq_iff.mp hline
      simp [ih, hread]
    · rename_i next fault hline
      -- A line that reads as a setting would have been accepted.
      have hread : SamplerSetting.read? line = none := by
        rw [Option.eq_none_iff_forall_ne_some]
        intro setting hread
        have htaken : s.takeLine line = (s.taking setting, none) :=
          takeLine_eq_iff.mpr ⟨setting, hread, rfl⟩
        rw [hline] at htaken
        cases htaken
      simp [hread]

/-! ## The flag -/

/-- Samples are compared exactly if there is a comparison function. -/
def Compares (s : SamplerDesc) : Prop := s.filter.comparison = true ↔ s.func.isSome = true

/-- However far an address line is read, it only writes address modes. -/
theorem takeAddress_keeps (s : SamplerDesc) (line : Text) :
    (s.takeAddress line).1.filter = s.filter ∧ (s.takeAddress line).1.func = s.func := by
  unfold takeAddress
  split
  · exact ⟨rfl, rfl⟩
  · split
    · exact ⟨rfl, rfl⟩
    · split
      · exact ⟨rfl, rfl⟩
      · split <;> exact ⟨rfl, rfl⟩

/-- No line parts the flag from the function, even if it is refused. -/
theorem compares_takeLine (h : s.Compares) (line : Text) : (s.takeLine line).1.Compares := by
  unfold takeLine
  split
  · rename_i rest _
    obtain ⟨hfilter, hfunc⟩ := takeAddress_keeps s rest
    rw [Compares, hfilter, hfunc]
    exact h
  · split
    · split
      · exact h
      · -- A filter line takes the flag from the function that is there.
        exact Iff.rfl
    · split
      · split
        · exact h
        · simp [Compares]
      · exact h

/-- After any lines a sampler compares as it says. -/
theorem compares_afterLines (h : s.Compares) (lines : List Text) :
    (s.afterLines lines).Compares := by
  induction lines generalizing s with
  | nil => exact h
  | cons line more ih => exact ih (compares_takeLine h line)

/-- Lines that are all accepted are lines. -/
theorem afterLines_of_takeLines (h : s.takeLines lines = some s') : s.afterLines lines = s' := by
  induction lines generalizing s with
  | nil => exact Option.some.inj h
  | cons line more ih =>
    rw [takeLines] at h
    split at h
    · rename_i next hline
      rw [afterLines, List.foldl_cons, hline]
      exact ih h
    · cases h

/-! ## The last settings -/

/-- The sampler that the last settings of a block make. -/
def madeOf (slot : UInt32) (address : Option (PerCoordinate AddressMode))
    (filter : Option (FilterMode × FilterMode × FilterMode)) (func : Option ComparisonFunc) :
    SamplerDesc :=
  let (min, mag, mip) := filter.getD (.point, .point, .point)
  { slot, func
    filter := { min, mag, mip, comparison := func.isSome }
    address := address.getD { u := .clamp, v := .clamp, w := .clamp } }

/-- An accepted sampler is made of the last setting of each kind. -/
theorem eq_madeOf {slot : UInt32} (h : (fresh slot).takeLines lines = some s) :
    s = madeOf slot (SamplerSetting.last? SamplerSetting.address? lines)
      (SamplerSetting.last? SamplerSetting.filter? lines)
      (SamplerSetting.last? SamplerSetting.comparison? lines) := by
  have hfold := (takeLines_eq_some_iff.mp h).2
  have hlast {T : Type} (part : SamplerDesc → T) (pick : SamplerSetting → Option T)
      (hpart : ∀ s setting, part (taking s setting) = (pick setting).getD (part s)) :
      part s = (SamplerSetting.last? pick lines).getD (part (fresh slot)) := by
    rw [hfold]
    exact foldl_last part pick hpart (fresh slot) _
  have hslot : s.slot = slot := by
    have hnone := hlast (·.slot) (fun _ => none) fun s setting => by
      rcases setting with modes | ⟨min, mag, mip⟩ | func <;> rfl
    simpa [SamplerSetting.last?, fresh] using hnone
  have haddress := hlast (·.address) SamplerSetting.address? fun s setting => by
    rcases setting with modes | ⟨min, mag, mip⟩ | func <;> rfl
  have hfilter := hlast (fun s => (s.filter.min, s.filter.mag, s.filter.mip))
    SamplerSetting.filter? fun s setting => by
      rcases setting with modes | ⟨min, mag, mip⟩ | func <;> rfl
  have hfunc : s.func = SamplerSetting.last? SamplerSetting.comparison? lines := by
    rw [hfold, foldl_last_or func SamplerSetting.comparison? fun s setting => by
      rcases setting with modes | ⟨min, mag, mip⟩ | func <;> rfl]
    exact Option.or_none
  -- The flag is not set by one kind of line alone, but it agrees with the function.
  have hcompares : s.Compares := by
    rw [← afterLines_of_takeLines h]
    exact compares_afterLines (by simp [Compares, fresh]) lines
  have hflag : s.filter.comparison = s.func.isSome := Bool.eq_iff_iff.mpr hcompares
  obtain ⟨slot', ⟨min, mag, mip, comparison⟩, address, func⟩ := s
  dsimp only at hslot haddress hfilter hfunc hflag
  subst hslot haddress hfunc hflag
  simp only [madeOf, fresh] at hfilter ⊢
  rw [← hfilter]

/-! ## Orders -/

/-- The settings of a kind are those of the lines of the kind. -/
theorem last?_linesOf {T : Type} {pick : SamplerSetting → Option T} {kind : SamplerSetting.Kind}
    (hpick : ∀ setting, (pick setting).isSome → setting.kind = kind) (lines : List Text) :
    SamplerSetting.last? pick (SamplerSetting.linesOf kind lines) =
      SamplerSetting.last? pick lines := by
  suffices hpicked : ((SamplerSetting.linesOf kind lines).filterMap SamplerSetting.read?).filterMap
      pick = (lines.filterMap SamplerSetting.read?).filterMap pick by
    rw [SamplerSetting.last?, hpicked]
    rfl
  induction lines with
  | nil => rfl
  | cons line more ih =>
    rw [SamplerSetting.linesOf] at ih ⊢
    cases hread : SamplerSetting.read? line with
    | none =>
      have hother : SamplerSetting.isOf kind line = false := by simp [SamplerSetting.isOf, hread]
      rw [List.filter_cons_of_neg (by simp [hother]), List.filterMap_cons_none hread]
      exact ih
    | some setting =>
      have hof : SamplerSetting.isOf kind line = decide (setting.kind = kind) := by
        simp [SamplerSetting.isOf, hread]
      by_cases hkind : setting.kind = kind
      · rw [List.filter_cons_of_pos (by simp [hof, hkind]), List.filterMap_cons_some hread,
          List.filterMap_cons_some hread, List.filterMap_cons, List.filterMap_cons, ih]
      · -- A line of another kind has nothing that is picked.
        have hnone : pick setting = none := by simpa using mt (hpick setting) hkind
        rw [List.filter_cons_of_neg (by simp [hof, hkind]), List.filterMap_cons_some hread,
          List.filterMap_cons_none hnone]
        exact ih

/-- The same lines in another order make the same sampler, if lines of the same kind stay in
    order. -/
theorem takeLines_reorder {slot : UInt32} (h : (fresh slot).takeLines lines = some s)
    (hperm : lines.Perm lines')
    (hkinds : ∀ kind, SamplerSetting.linesOf kind lines = SamplerSetting.linesOf kind lines') :
    (fresh slot).takeLines lines' = some s := by
  obtain ⟨s', h'⟩ : ∃ s', (fresh slot).takeLines lines' = some s' := by
    refine ⟨_, takeLines_eq_some_iff.mpr ⟨fun line hline => ?_, rfl⟩⟩
    exact (takeLines_eq_some_iff.mp h).1 line (hperm.mem_iff.mpr hline)
  have hlast {T : Type} (pick : SamplerSetting → Option T) (kind : SamplerSetting.Kind)
      (hpick : ∀ setting, (pick setting).isSome → setting.kind = kind) :
      SamplerSetting.last? pick lines = SamplerSetting.last? pick lines' := by
    rw [← last?_linesOf hpick lines, hkinds, last?_linesOf hpick lines']
  have haddress := hlast SamplerSetting.address? .address fun setting hsome => by
    cases setting <;> first | rfl | cases hsome
  have hfilter := hlast SamplerSetting.filter? .filter fun setting hsome => by
    cases setting <;> first | rfl | cases hsome
  have hfunc := hlast SamplerSetting.comparison? .comparison fun setting hsome => by
    cases setting <;> first | rfl | cases hsome
  rw [h', eq_madeOf h, eq_madeOf h', haddress, hfilter, hfunc]

/-- After any lines a sampler compares exactly if it has a comparison function.  If all lines are
    accepted, it is made of the last setting of each kind, and the lines can be reordered as long
    as those of one kind stay in order. -/
theorem made_of_lines (slot : UInt32) :
    (∀ lines, ((fresh slot).afterLines lines).Compares) ∧
    (∀ {lines s}, (fresh slot).takeLines lines = some s →
      s = madeOf slot (SamplerSetting.last? SamplerSetting.address? lines)
        (SamplerSetting.last? SamplerSetting.filter? lines)
        (SamplerSetting.last? SamplerSetting.comparison? lines)) ∧
    ∀ {lines lines' s}, (fresh slot).takeLines lines = some s → lines.Perm lines' →
      (∀ kind, SamplerSetting.linesOf kind lines = SamplerSetting.linesOf kind lines') →
      (fresh slot).takeLines lines' = some s :=
  ⟨compares_afterLines (by simp [Compares, fresh]), eq_madeOf, takeLines_reorder⟩

/-- A filter before the comparison function and one after it. -/
def mixedLines : List Text :=
  ["filter point point linear".toList, "comparison less".toList, "address wrap wrap wrap".toList,
    "filter linear linear point".toList]

/-- The same lines with the comparison function at the end. -/
def mixedLines' : List Text :=
  ["address wrap wrap wrap".toList, "filter point point linear".toList,
    "filter linear linear point".toList, "comparison less".toList]

/-- The filter that comes before the function does not stop the sampler from comparing. -/
theorem made_of_lines_mixed :
    let s := madeOf 2 (some ⟨.wrap, .wrap, .wrap⟩) (some (.linear, .linear, .point)) (some .less)
    (fresh 2).takeLines mixedLines = some s ∧ (fresh 2).takeLines mixedLines' = some s ∧
      s.filter.comparison = true := by
  obtain ⟨s, hs⟩ : ∃ s, (fresh 2).takeLines mixedLines = some s :=
    Option.isSome_iff_exists.mp (by decide +kernel)
  obtain ⟨-, hmade, hreorder⟩ := made_of_lines 2
  have heq := hmade hs
  have hs' : (fresh 2).takeLines mixedLines' = some s :=
    hreorder hs (by decide +kernel) fun kind => by cases kind <;> decide +kernel
  have hlast : s = madeOf 2 (some ⟨.wrap, .wrap, .wrap⟩) (some (.linear, .linear, .point))
      (some .less) := by
    rw [heq]
    decide +kernel
  subst hlast
  exact ⟨hs, hs', rfl⟩

end SamplerDesc

end ShaderConformance
