import ShaderConformance.Proofs.AcceptedBlocks
import ShaderConformance.Proofs.Codecs
import ShaderConformance.Proofs.DecimalText
import ShaderConformance.Proofs.LineItems
import ShaderConformance.Proofs.NearestNumbers
import ShaderConformance.Resource.Block

/-!
# Payloads of resource blocks

A line of a resource block that no keyword begins is a list of payload words.  A word with a point
is a number in single precision, any other one an integer of 32 bits, and its image is four bytes
long.  Where the lines are broken and which lines describe the resource in between has no say in
the contents.

## Main definitions

- `WordImage`: the pattern that a payload word stands for
- `Spread`: words on a line, with blanks around them
- `Distributed`: words on lines, between lines that describe the resource

## Main statements

- `payloadWord?_eq_some_iff`: a payload word is read as its pattern
- `takeLines_of_distributed`: the contents grow by the words of all lines
- `contents_of_words`: the contents are the images of the words in their order
-/

namespace ShaderConformance

open Text Floating

namespace ResourceBlock

/-! ## Words -/

section Words

variable {word : Text} {v : Int} {w : UInt32}

/-- An integer is kept modulo the size of a word. -/
theorem toNat_ofInt (v : Int) : ((UInt32.ofInt v).toNat : Int) = v % 2 ^ 32 := by
  have hlt : (v % 2 ^ 32).toNat < UInt32.size := by
    simp only [UInt32.size]
    omega
  rw [UInt32.ofInt, UInt32.toNat_ofNat_of_lt' hlt]
  omega

/-- A natural number is kept as the word of that number. -/
theorem ofInt_natCast (n : Nat) : UInt32.ofInt n = UInt32.ofNat n := by
  rw [← UInt32.toNat_inj]
  have h := toNat_ofInt n
  have hof : (UInt32.ofNat n).toNat = n % 2 ^ 32 := rfl
  omega

/-- There is no point in an integer. -/
theorem not_mem_point (h : IntegerText word v) : '.' ∉ word := by
  cases h with
  | decimal h => exact h.not_mem (by decide) (by decide) rfl
  | hexadecimal hx h =>
    have hpoint : '.' ∉ _ := h.not_mem (by decide) (by decide) rfl
    obtain rfl | rfl := hx <;> simp [hpoint]
  | negative h =>
    have hpoint : '.' ∉ _ := h.not_mem (by decide) (by decide) rfl
    simp [hpoint]

/-- With a point in it, a word is a number in single precision. -/
theorem payloadWord?_of_mem (hpoint : '.' ∈ word) :
    payloadWord? word = (Single.read? word).map (·.bits) :=
  if_pos (by simpa using hpoint)

/-- Without a point and a minus sign, a word is a literal. -/
theorem payloadWord?_of_not_mem (hpoint : '.' ∉ word) (hminus : word.head? ≠ some '-') :
    payloadWord? word = uint32Literal? word := by
  unfold payloadWord?
  rw [if_neg (by simpa using hpoint)]
  split
  · exact absurd rfl hminus
  · rfl

/-- A minus sign takes a decimal word to its negative, down to the lowest integer. -/
theorem payloadWord?_minus {digits : Text} (hpoint : '.' ∉ digits) : payloadWord? ('-' :: digits) =
    ((uint32? digits).filter (·.toNat ≤ 2 ^ 31)).map fun w => 0 - w := by
  unfold payloadWord?
  rw [if_neg (by simpa using hpoint)]
  rfl

/-- An integer that fits 32 bits, with a sign or without, is read as its pattern. -/
theorem payloadWord?_of_integerText (h : IntegerText word v) : payloadWord? word =
    if -2 ^ 31 ≤ v ∧ v < 2 ^ 32 then some (UInt32.ofInt v) else none := by
  have hpoint := not_mem_point h
  cases h with
  | @decimal _ n h =>
    have hminus : word.head? ≠ some '-' := by
      intro hhead
      exact h.not_mem (by decide) (by decide) rfl (List.mem_of_mem_head? hhead)
    rw [payloadWord?_of_not_mem hpoint hminus, uint32Literal?_of_decimal h, ofInt_natCast]
    have hrange : n < UInt32.size ↔ -2 ^ 31 ≤ (n : Int) ∧ (n : Int) < 2 ^ 32 := by
      simp only [UInt32.size]
      omega
    simp only [hrange]
  | @hexadecimal x s n hx h =>
    rw [payloadWord?_of_not_mem hpoint (by simp), uint32Literal?_of_hexadecimal hx h, ofInt_natCast]
    have hrange : n < UInt32.size ↔ -2 ^ 31 ≤ (n : Int) ∧ (n : Int) < 2 ^ 32 := by
      simp only [UInt32.size]
      omega
    simp only [hrange]
  | @negative s n h =>
    rw [payloadWord?_minus (List.not_mem_of_not_mem_cons hpoint), uint32?_of_signedNumeral h]
    -- A magnitude above `2 ^ 31` may fit 32 bits, but its negative is out of range.
    by_cases hle : n ≤ 2 ^ 31
    · have hlt : n < UInt32.size := by
        simp only [UInt32.size]
        omega
      have hfits : decide ((UInt32.ofNat n).toNat ≤ 2 ^ 31) = true := by
        rwa [decide_eq_true_eq, UInt32.toNat_ofNat_of_lt' hlt]
      rw [if_pos hlt, Option.filter_some, if_pos hfits, Option.map_some, if_pos (by omega),
        UInt32.zero_sub, UInt32.ofInt_neg, ofInt_natCast]
    · rw [if_neg (c := -2 ^ 31 ≤ (-n : Int) ∧ (-n : Int) < 2 ^ 32) (by omega)]
      split
      · rename_i hlt
        have hfits : ¬ decide ((UInt32.ofNat n).toNat ≤ 2 ^ 31) = true := by
          rwa [decide_eq_true_eq, UInt32.toNat_ofNat_of_lt' hlt]
        rw [Option.filter_some, if_neg hfits, Option.map_none]
      · rfl

/-- Without a point there is an integer. -/
theorem exists_integerText (hpoint : '.' ∉ word) (h : payloadWord? word = some w) :
    ∃ v, IntegerText word v := by
  by_cases hminus : word.head? = some '-'
  · obtain ⟨digits, rfl⟩ := List.head?_eq_some_iff.mp hminus
    rw [payloadWord?_minus (List.not_mem_of_not_mem_cons hpoint)] at h
    obtain ⟨m, hm, -⟩ := Option.map_eq_some_iff.mp h
    obtain ⟨n, hn⟩ := exists_of_uint32? (Option.filter_eq_some_iff.mp hm).1
    exact ⟨_, .negative hn⟩
  · rw [payloadWord?_of_not_mem hpoint hminus] at h
    exact exists_of_uint32Literal? h

/-- The characters that a payload word may begin with. -/
def startsNumber (c : Char) : Bool := c.isDigit || c == '+' || c == '-' || c == '.'

/-- A decimal begins as a number. -/
theorem startsNumber_of_decimalText {c : Char} {s : Text} {digits : Nat} {exponent : Int}
    (h : DecimalText (c :: s) digits exponent) : startsNumber c = true := by
  obtain hdigit | rfl := h.isDigit_or_eq_point rfl
  · simp [startsNumber, hdigit]
  · rfl

theorem startsNumber_of_signedDecimal {c : Char} {s : Text} {negative : Bool} {digits : Nat}
    {exponent : Int} (h : SignedDecimal (c :: s) negative digits exponent) :
    startsNumber c = true := by
  cases h with
  | plain h => exact startsNumber_of_decimalText h
  | plus | minus => rfl

/-- A numeral with a sign begins as a number. -/
theorem startsNumber_of_signedNumeral {c : Char} {s : Text} {n : Nat}
    (h : SignedNumeral 10 (c :: s) n) : startsNumber c = true := by
  obtain rfl | ⟨d, hd⟩ := h.eq_plus_or c List.mem_cons_self
  · rfl
  · simp [startsNumber, hd.isDigit]

/-- An integer begins as a number. -/
theorem startsNumber_of_integerText {c : Char} {s : Text} (h : IntegerText (c :: s) v) :
    startsNumber c = true := by
  cases h with
  | decimal h => exact startsNumber_of_signedNumeral h
  | hexadecimal | negative => rfl

/-- Every word of a payload begins as a number. -/
theorem startsNumber_of_payloadWord? {c : Char} {s : Text} (h : payloadWord? (c :: s) = some w) :
    startsNumber c = true := by
  by_cases hpoint : '.' ∈ c :: s
  · rw [payloadWord?_of_mem hpoint] at h
    obtain ⟨x, hx, -⟩ := Option.map_eq_some_iff.mp h
    obtain ⟨bits, hbits, -⟩ := Option.map_eq_some_iff.mp hx
    obtain ⟨negative, digits, exponent, hdecimal, -⟩ :=
      (Interchange.read?_eq_some_iff hpoint).mp hbits
    exact startsNumber_of_signedDecimal hdecimal
  · obtain ⟨v, hv⟩ := exists_integerText hpoint h
    exact startsNumber_of_integerText hv

/-- Every word of a payload is made of characters of numbers. -/
theorem isNumeral_of_payloadWord? (h : payloadWord? word = some w) : word.IsNumeral := by
  by_cases hpoint : '.' ∈ word
  · rw [payloadWord?_of_mem hpoint] at h
    obtain ⟨x, hx, -⟩ := Option.map_eq_some_iff.mp h
    exact Single.isNumeral_of_read? hx
  · by_cases hminus : word.head? = some '-'
    · obtain ⟨digits, rfl⟩ := List.head?_eq_some_iff.mp hminus
      rw [payloadWord?_minus (List.not_mem_of_not_mem_cons hpoint)] at h
      obtain ⟨m, hm, -⟩ := Option.map_eq_some_iff.mp h
      obtain ⟨n, hn, -⟩ := Option.map_eq_some_iff.mp (Option.filter_eq_some_iff.mp hm).1
      exact isNumeral_cons_iff.mpr ⟨by decide, isNumeral_of_unsigned? hn⟩
    · rw [payloadWord?_of_not_mem hpoint hminus] at h
      exact isNumeral_of_uint32Literal? h

/-- No character of a number is a blank. -/
theorem isBlank_of_isNumeralChar {c : Char} (h : isNumeralChar c = true) : isBlank c = false := by
  simp only [isNumeralChar, Bool.or_eq_true, beq_iff_eq, isAlphanum_iff, le_iff_toNat,
    ← Char.toNat_inj, Char.reduceToNat] at h
  simp [isBlank]
  omega

/-- Every word of a payload is a word of the line. -/
theorem isWord_of_payloadWord? (h : payloadWord? word = some w) : word.IsWord where
  nonempty := by
    rintro rfl
    cases h
  solid c hc := isBlank_of_isNumeralChar (isNumeral_of_payloadWord? h c hc)

end Words

/-! ## Lines -/

/-- Words with blanks before and between them and behind the last one. -/
inductive Spread : List Text → Text → Prop
  | blanks {gap : Text} (hgap : gap.Blanks) : Spread [] gap
  | word {gap word behind : Text} {ws} (hgap : gap.Blanks) (hbehind : behind.BetweenWords)
    (h : Spread ws behind) : Spread (word :: ws) (gap ++ (word ++ behind))

/-- The keywords of the lines that describe a resource. -/
def keywords : List String := ["format", "stride", "size", "levels"]

/-- A line that describes the resource. -/
def Describes (s : Text) : Prop := ∃ keyword ∈ keywords, (keyword? s keyword).isSome

/-- Words are distributed over lines in their order, between lines that describe the resource. -/
inductive Distributed : (describing words lines : List Text) → Prop
  | nil : Distributed [] [] []
  | describe {s describing words lines} (hs : Describes s)
    (h : Distributed describing words lines) : Distributed (s :: describing) words (s :: lines)
  | fill {s words describing more lines} (hs : Spread words s)
    (h : Distributed describing more lines) : Distributed describing (words ++ more) (s :: lines)

section Lines

variable {s : Text} {texts describing lines : List Text} {ws : List UInt32} {b : ResourceBlock}

/-- Of words that are all read, each is read. -/
theorem exists_of_map (hread : texts.map payloadWord? = ws.map some) {word : Text}
    (hmem : word ∈ texts) : ∃ w, payloadWord? word = some w := by
  have hfound : payloadWord? word ∈ ws.map some := hread ▸ List.mem_map_of_mem hmem
  obtain ⟨w, -, hw⟩ := List.mem_map.mp hfound
  exact ⟨w, hw.symm⟩

/-- Words that are all read are words of the line. -/
theorem isWord_of_map (hread : texts.map payloadWord? = ws.map some) :
    ∀ word ∈ texts, word.IsWord := by
  intro word hmem
  obtain ⟨w, hw⟩ := exists_of_map hread hmem
  exact isWord_of_payloadWord? hw

/-- Words that are spread over a line are the words of the line. -/
theorem words_of_spread (h : Spread texts s) (hwords : ∀ word ∈ texts, word.IsWord) :
    words s = texts := by
  induction h with
  | @blanks gap hgap =>
    have htrim := trimStart_append_of_blanks hgap []
    rw [List.append_nil] at htrim
    rw [← words_trimStart, htrim]
    rfl
  | word hgap hbehind _ ih =>
    obtain ⟨hword, hmore⟩ := List.forall_mem_cons.mp hwords
    rw [← words_trimStart, trimStart_append_of_blanks hgap, words_trimStart,
      words_append hword hbehind, ih hmore]

/-- No keyword begins a line whose first word is a number. -/
theorem keyword?_of_spread (h : Spread texts s) (hread : texts.map payloadWord? = ws.map some) :
    ∀ keyword ∈ keywords, keyword? s keyword = none := by
  intro keyword hkeyword
  cases h with
  | blanks hgap =>
    -- A blank line starts with no keyword.
    have htrim := trimStart_append_of_blanks hgap []
    rw [List.append_nil] at htrim
    rw [← keyword?_trimStart, htrim]
    revert keyword
    decide
  | @word gap word behind more hgap hbehind h =>
    -- A line of words starts as a number does, and no keyword of the block starts so.
    obtain ⟨w, hw⟩ := exists_of_map hread List.mem_cons_self
    have hword := isWord_of_payloadWord? hw
    obtain ⟨c, cs, rfl⟩ := List.exists_cons_of_ne_nil hword.nonempty
    have hline : trimStart (gap ++ (c :: cs ++ behind)) = c :: (cs ++ behind) := by
      rw [trimStart_append_of_blanks hgap]
      exact List.dropWhile_cons_of_neg (by simp [hword.solid c List.mem_cons_self])
    have hstart : startsNumber c = true := startsNumber_of_payloadWord? hw
    have hletters : ∀ keyword ∈ keywords, (firstLetter? keyword).map startsNumber = some false := by
      decide
    obtain ⟨k, hk, hletter⟩ := Option.map_eq_some_iff.mp (hletters keyword hkeyword)
    refine keyword?_of_firstLetter? hline hk ?_
    rintro rfl
    rw [hstart] at hletter
    cases hletter

/-- Words that are all read are a payload without a fault. -/
theorem payload_of_map (hread : texts.map payloadWord? = ws.map some) :
    payload texts = (ws, none) := by
  induction texts generalizing ws with
  | nil =>
    obtain rfl : ws = [] := List.map_eq_nil_iff.mp hread.symm
    rfl
  | cons word more ih =>
    cases ws with
    | nil => cases hread
    | cons w ws =>
      obtain ⟨hw, hmore⟩ := List.cons.inj hread
      rw [payload, hw]
      dsimp only
      rw [ih hmore]

/-- A line of words is taken as the bytes of their images. -/
theorem takeLine_of_spread (b : ResourceBlock) (h : Spread texts s)
    (hread : texts.map payloadWord? = ws.map some) :
    b.takeLine s = ({ b with data := b.data ++ ws.flatMap wordBytes }, none) := by
  have hnone := keyword?_of_spread h hread
  simp only [keywords, List.forall_mem_cons] at hnone
  obtain ⟨hformat, hstride, hsize, hlevels, -⟩ := hnone
  rw [takeLine, line, hformat, hstride, hsize, hlevels]
  dsimp only
  rw [words_of_spread h (isWord_of_map hread), payload_of_map hread]
  rfl

/-- The contents so far have no say in what a line means. -/
theorem line_withData (b : ResourceBlock) (data : List UInt8) (s : Text) :
    ({ b with data } : ResourceBlock).line s = b.line s := rfl

/-- A line that describes is no payload. -/
theorem not_payload_of_describes {l : Line} (hs : Describes s) (h : b.line s = .ok l)
    (ws : List UInt32) (fault : Option Fault) : l ≠ .payload ws fault := by
  rintro rfl
  unfold line at h
  split at h
  · obtain ⟨f, hf⟩ := formatLine_eq_ok h
    cases hf
  · split at h
    · obtain ⟨bytes, -, hbytes⟩ := strideLine_eq_ok h
      cases hbytes
    · split at h
      · obtain ⟨size, -, hsize⟩ := map_eq_ok_iff.mp h
        cases hsize
      · split at h
        · obtain ⟨count, -, hcount⟩ := levelsLine_eq_ok h
          cases hcount
        · -- No keyword is left that the line could begin with.
          obtain ⟨keyword, hmem, hmatch⟩ := hs
          simp only [keywords, List.mem_cons, List.not_mem_nil, or_false] at hmem
          obtain rfl | rfl | rfl | rfl := hmem <;> simp_all

/-- A line that describes the resource leaves the contents as they are. -/
theorem takeLine_of_describes (b : ResourceBlock) (data : List UInt8) (hs : Describes s) :
    ({ b with data } : ResourceBlock).takeLine s =
      ({ (b.takeLine s).1 with data }, (b.takeLine s).2) := by
  unfold takeLine
  rw [line_withData]
  cases hline : b.line s with
  | error fault => rfl
  | ok l =>
    cases l with
    | payload ws fault => exact absurd rfl (not_payload_of_describes hs hline ws fault)
    | format | stride | size | levels => rfl

/-- By induction on the lines.  The contents grow by the words of a line, and the description is
    that of the other lines alone. -/
theorem takeLines_of_distributed (h : Distributed describing texts lines)
    (hread : texts.map payloadWord? = ws.map some) (b : ResourceBlock) (data : List UInt8) :
    ({ b with data } : ResourceBlock).takeLines lines = (b.takeLines describing).map fun b =>
      { b with data := data ++ ws.flatMap wordBytes } := by
  induction h generalizing ws b data with
  | nil =>
    obtain rfl : ws = [] := List.map_eq_nil_iff.mp hread.symm
    simp [takeLines, Except.map]
  -- A line of description leaves the data alone, so its fault is that of the block without data.
  | @describe s _ _ _ hs _ ih =>
    rw [takeLines, takeLines, takeLine_of_describes b data hs]
    cases htaken : b.takeLine s with
    | mk b' fault =>
      cases fault with
      | some fault => rfl
      | none => exact ih hread b' data
  -- A line of words adds their bytes to the data and changes nothing else.
  | @fill s words _ more _ hs _ ih =>
    rw [List.map_append] at hread
    obtain ⟨ws, ws', rfl, hwords, hmore⟩ := List.map_eq_append_iff.mp hread.symm
    rw [takeLines, takeLine_of_spread _ hs hwords.symm]
    dsimp only
    rw [ih hmore.symm, List.flatMap_append, List.append_assoc]

end Lines

/-! ## Contents -/

/-- The pattern that a payload word stands for: that of the number nearest to a decimal with a
    point, or that of an integer of 32 bits, with a sign or without, modulo their number. -/
inductive WordImage : Text → UInt32 → Prop
  | number {word negative digits exponent m w} (hpoint : '.' ∈ word)
    (h : SignedDecimal word negative digits exponent)
    (hm : Interchange.single.IsNearest (digits * 10 ^ exponent) m)
    (hw : w.toNat = Interchange.single.withSign negative m) : WordImage word w
  | integer {word v w} (h : IntegerText word v) (hlow : -2 ^ 31 ≤ v) (hhigh : v < 2 ^ 32)
    (hw : (w.toNat : Int) = v % 2 ^ 32) : WordImage word w

section Images

variable {word : Text} {w : UInt32}

/-- The pattern of a nearest number fits into a word. -/
theorem toNat_ofNat_withSign {q : ℚ} {m : ℕ} (h : Interchange.single.IsNearest q m)
    (negative : Bool) : (UInt32.ofNat (Interchange.single.withSign negative m)).toNat =
      Interchange.single.withSign negative m :=
  UInt32.toNat_ofNat_of_lt' <|
    Interchange.withSign_lt (h.le_infinity.trans_lt (Interchange.infinity_lt _)) negative

/-- With a point in it, a word has the pattern of the nearest number. -/
theorem payloadWord?_eq_some_iff_of_point (hpoint : '.' ∈ word) :
    payloadWord? word = some w ↔ ∃ negative digits exponent m,
      SignedDecimal word negative digits exponent ∧
        Interchange.single.IsNearest (digits * 10 ^ exponent) m ∧
          w.toNat = Interchange.single.withSign negative m := by
  have hnearest (digits : ℕ) (exponent : ℤ) := Interchange.isNearest_magnitudeOfWritten
    (f := Interchange.single) (by decide) (by decide) (by decide) digits exponent
  rw [payloadWord?_of_mem hpoint, Single.read?, Option.map_map, Option.map_eq_some_iff]
  simp only [Interchange.read?_eq_some_iff hpoint]
  constructor
  · rintro ⟨_, ⟨negative, digits, exponent, h, rfl⟩, rfl⟩
    exact ⟨negative, digits, exponent, _, h, hnearest digits exponent,
      toNat_ofNat_withSign (hnearest digits exponent) negative⟩
  · rintro ⟨negative, digits, exponent, m, h, hm, hw⟩
    -- The pattern that the reader computes is a nearest one, and there is no other.
    obtain rfl := hm.unique (by decide) (hnearest digits exponent)
    refine ⟨_, ⟨negative, digits, exponent, h, rfl⟩, ?_⟩
    rw [← UInt32.toNat_inj, hw]
    exact toNat_ofNat_withSign hm negative

/-- A word is read as its image. -/
theorem payloadWord?_eq_some_iff : payloadWord? word = some w ↔ WordImage word w := by
  constructor
  · intro h
    -- A point makes a word a float; without one it is an integer of either signedness.
    by_cases hpoint : '.' ∈ word
    · obtain ⟨negative, digits, exponent, m, hdecimal, hm, hw⟩ :=
        (payloadWord?_eq_some_iff_of_point hpoint).mp h
      exact .number hpoint hdecimal hm hw
    · obtain ⟨v, hv⟩ := exists_integerText hpoint h
      rw [payloadWord?_of_integerText hv] at h
      split at h
      · rename_i hrange
        obtain rfl := Option.some.inj h
        exact .integer hv hrange.1 hrange.2 (toNat_ofInt v)
      · cases h
  · rintro (⟨hpoint, hdecimal, hm, hw⟩ | ⟨hv, hlow, hhigh, hw⟩)
    · exact (payloadWord?_eq_some_iff_of_point hpoint).mpr ⟨_, _, _, _, hdecimal, hm, hw⟩
    · rw [payloadWord?_of_integerText hv, if_pos ⟨hlow, hhigh⟩, Option.some.injEq,
        ← UInt32.toNat_inj]
      exact Int.ofNat_inj.mp ((toNat_ofInt _).trans hw.symm)

end Images

/-- Words have four bytes each. -/
theorem length_flatMap_wordBytes (ws : List UInt32) :
    (ws.flatMap wordBytes).length = 4 * ws.length := by
  induction ws with
  | nil => rfl
  | cons w ws ih =>
    rw [List.flatMap_cons, List.length_append, length_wordBytes, ih, List.length_cons]
    omega

/-- A payload word is read as its pattern, and an integer out of range is refused.  However payload
    words are laid out on lines between those that describe a resource, its contents are the bytes
    of the patterns, one after another with the low byte first. -/
theorem contents_of_words :
    (∀ word w, payloadWord? word = some w ↔ WordImage word w) ∧
    (∀ word v, IntegerText word v → v < -2 ^ 31 ∨ 2 ^ 32 ≤ v → payloadWord? word = none) ∧
    (∀ w, (wordBytes w).length = 4 ∧ littleEndian (wordBytes w) = w.toNat) ∧
    ∀ type slot describing texts lines (ws : List UInt32), Distributed describing texts lines →
      texts.map payloadWord? = ws.map some →
        (fresh type slot).takeLines lines = ((fresh type slot).takeLines describing).map
          (fun b => { b with data := ws.flatMap wordBytes }) ∧
        (ws.flatMap wordBytes).length = 4 * texts.length := by
  refine ⟨fun _ _ => payloadWord?_eq_some_iff, ?_, ?_, ?_⟩
  · intro word v hv hrange
    rw [payloadWord?_of_integerText hv]
    exact if_neg (by omega)
  · exact fun w => ⟨length_wordBytes w, littleEndian_wordBytes w⟩
  · intro type slot describing texts lines ws hlines hread
    have hlength : ws.length = texts.length := by
      simpa using (congrArg List.length hread).symm
    exact ⟨takeLines_of_distributed hlines hread (fresh type slot) [],
      by rw [length_flatMap_wordBytes, hlength]⟩

/-- Lines with payload words between lines that describe a buffer. -/
def mixedLines : List Text :=
  ["format r32-uint".toList, " 1.0  0x10\t-1".toList, "size (buffer, 4)".toList, "7".toList]

/-- Words of several kinds, spread over lines with another one between them. -/
theorem distributed_mixed : Distributed ["format r32-uint".toList, "size (buffer, 4)".toList]
    ["1.0".toList, "0x10".toList, "-1".toList, "7".toList] mixedLines := by
  have hend : Text.BetweenWords [] := by simp [Text.Stops]
  have hblank (gap : Text) (hgap : gap.all isBlank = true) : gap.Blanks := List.all_eq_true.mp hgap
  have hnone : Text.Blanks [] := hblank [] rfl
  have hminus : Spread ["-1".toList] ("\t".toList ++ ("-1".toList ++ [])) :=
    .word (hblank _ (by decide)) hend (.blanks hnone)
  have hhex : Spread ["0x10".toList, "-1".toList]
      ("  ".toList ++ ("0x10".toList ++ "\t-1".toList)) :=
    .word (hblank _ (by decide)) (stops_cons_iff.mpr (by decide)) hminus
  have hfirst : Spread ["1.0".toList, "0x10".toList, "-1".toList] " 1.0  0x10\t-1".toList :=
    .word (hblank " ".toList (by decide)) (stops_cons_iff.mpr (by decide)) hhex
  have hlast : Spread ["7".toList] ([] ++ ("7".toList ++ [])) := .word hnone hend (.blanks hnone)
  exact .describe ⟨"format", by decide, by decide⟩ (.fill hfirst
    (.describe ⟨"size", by decide, by decide⟩ (.fill hlast .nil)))

/-- An integer out of range is refused, and the words of two lines make up the contents of a
    buffer. -/
theorem contents_of_words_mixed :
    payloadWord? "4294967296".toList = none ∧
      ((fresh .vertexBuffer 0).takeLines mixedLines).map ResourceBlock.data =
        .ok [0, 0, 0x80, 0x3f, 0x10, 0, 0, 0, 0xff, 0xff, 0xff, 0xff, 7, 0, 0, 0] := by
  obtain ⟨-, hrange, -, hcontents⟩ := contents_of_words
  have hdigits : Numeral 10 "4294967296".toList 4294967296 :=
    (digits?_eq_some_iff (by decide)).mp (by decide)
  have htaken := (hcontents .vertexBuffer 0 _ _ _ [0x3f800000, 0x10, 0xffffffff, 7]
    distributed_mixed (by decide)).1
  refine ⟨hrange _ _ (.decimal (.plain hdigits)) (by decide), ?_⟩
  rw [htaken]
  decide

end ResourceBlock

end ShaderConformance
