import Mathlib.Logic.Relation
import ShaderConformance.Proofs.SourceBodies

/-!
# Silent lines

Blank lines and comments say nothing outside of source.  What is left of a file without them
decides what a run does; they only count when lines are numbered.

## Main definitions

- `RunContext.inSource`: whether a source block is open after some lines
- `RunContext.spoken`: the lines that say something, with their numbers
- `RunContext.InsertsSilent`: one silent line more where no source block is open
- `RunContext.Corresponds`: numbers of the same line in two files

## Main statements

- `Step.runs_readLines_iff`: only the lines that say something are read
- `renumbered_of_runs`: whatever a run of a file does, a run of a file with the same spoken lines
  does too
- `sources_verbatim`: bodies of source blocks are passed on as they stand, and elsewhere silent
  lines do not matter
-/

namespace ShaderConformance

open Step

/-! ## Spoken lines -/

namespace RunContext

variable (context : RunContext)

/-- Whether a source block is open after a line, if that is so before it or not. -/
def sourceAfter (source : Bool) (text : Text) : Bool :=
  if text.head? = some '[' then
    (context.headerAt? text).any fun header => (Block.ofHeader header).isSource
  else source

/-- Whether a source block is open after some lines of a file. -/
def inSource (lines : List Text) : Bool := lines.foldl context.sourceAfter false

/-- The lines that say something, with their numbers. -/
def spokenFrom (source : Bool) (line : ℕ) : List Text → List (ℕ × Text)
  | [] => []
  | text :: more =>
    if !source && isSilent text then spokenFrom source (line + 1) more
    else (line, text) :: spokenFrom (context.sourceAfter source text) (line + 1) more

/-- The lines of a file that say something, with their numbers. -/
def spoken (text : Text) : List (ℕ × Text) := context.spokenFrom false 1 (Text.lines text)

/-- Two files say the same. -/
def SaysSame (text text' : Text) : Prop :=
  (context.spoken text).map Prod.snd = (context.spoken text').map Prod.snd

/-- One silent line more, where no source block is open. -/
def InsertsSilent (lines lines' : List Text) : Prop :=
  ∃ front text back, isSilent text = true ∧ context.inSource front = false ∧
    lines = front ++ back ∧ lines' = front ++ text :: back

/-- Numbers of the same line in two files, which has the same place among the spoken lines of
    both.  The number 0 stands before all lines. -/
def Corresponds (text text' : Text) (n n' : ℕ) : Prop :=
  n = 0 ∧ n' = 0 ∨ ∃ (i : ℕ) (line : Text), (context.spoken text)[i]? = some (n, line) ∧
    (context.spoken text')[i]? = some (n', line)

variable {context} {source : Bool} {text : Text}

/-- A silent line is no header. -/
theorem head?_ne_of_isSilent (h : isSilent text = true) : text.head? ≠ some '[' := by
  intro hheader
  cases text with
  | nil => cases hheader
  | cons c cs =>
    cases hheader
    simp [isSilent, Text.isBlankLine, Text.isBlank] at h

/-- A silent line neither begins nor ends a source. -/
theorem sourceAfter_of_isSilent (h : isSilent text = true) :
    context.sourceAfter source text = source :=
  if_neg (head?_ne_of_isSilent h)

theorem spokenFrom_append (source : Bool) (line : ℕ) (front back : List Text) :
    context.spokenFrom source line (front ++ back) = context.spokenFrom source line front ++
      context.spokenFrom (front.foldl context.sourceAfter source) (line + front.length) back := by
  induction front generalizing source line with
  | nil => rfl
  | cons text front ih =>
    have hline : line + 1 + front.length = line + (front.length + 1) := by omega
    simp only [List.cons_append, spokenFrom, ih, List.foldl_cons, List.length_cons, hline]
    split
    · -- A silent line opens nothing.
      rename_i hsilent
      rw [sourceAfter_of_isSilent (Bool.and_eq_true_iff.mp hsilent).2]
    · rfl

/-- What spoken lines say does not depend on where they stand. -/
theorem texts_spokenFrom (source : Bool) (line line' : ℕ) (lines : List Text) :
    (context.spokenFrom source line lines).map Prod.snd =
      (context.spokenFrom source line' lines).map Prod.snd := by
  induction lines generalizing source line line' with
  | nil => rfl
  | cons text more ih =>
    simp only [spokenFrom]
    split
    · exact ih source _ _
    · exact congrArg (text :: ·) (ih _ _ _)

/-- A silent line more changes nothing of what is said. -/
theorem InsertsSilent.texts_eq {lines lines' : List Text} (h : context.InsertsSilent lines lines') :
    (context.spokenFrom false 1 lines).map Prod.snd =
      (context.spokenFrom false 1 lines').map Prod.snd := by
  obtain ⟨front, text, back, hsilent, hfront, rfl, rfl⟩ := h
  rw [inSource] at hfront
  simp only [spokenFrom_append, hfront, spokenFrom, hsilent, Bool.not_false, Bool.and_self,
    if_true, List.map_append]
  exact congrArg _ (texts_spokenFrom _ _ _ _)

/-- However many silent lines come and go where no source block is open, files say the same. -/
theorem saysSame_of_eqvGen {text text' : Text}
    (h : Relation.EqvGen context.InsertsSilent (Text.lines text) (Text.lines text')) :
    context.SaysSame text text' := by
  have htexts {lines lines' : List Text} (h : Relation.EqvGen context.InsertsSilent lines lines') :
      (context.spokenFrom false 1 lines).map Prod.snd =
        (context.spokenFrom false 1 lines').map Prod.snd := by
    induction h with
    | rel _ _ hinsert => exact hinsert.texts_eq
    | refl _ => rfl
    | symm _ _ _ ih => exact ih.symm
    | trans _ _ _ _ _ ih ih' => exact ih.trans ih'
  exact htexts h

/-- Files that say the same have the same lines at numbers that correspond. -/
theorem SaysSame.forall₂ {text text' : Text} (h : context.SaysSame text text') :
    List.Forall₂ (fun p p' => context.Corresponds text text' p.1 p'.1 ∧ p.2 = p'.2)
      (context.spoken text) (context.spoken text') := by
  have hlength : (context.spoken text).length = (context.spoken text').length := by
    simpa only [List.length_map] using congrArg List.length h
  refine List.forall₂_iff_get.mpr ⟨hlength, fun i hi hi' => ?_⟩
  have hline : ((context.spoken text).get ⟨i, hi⟩).2 = ((context.spoken text').get ⟨i, hi'⟩).2 := by
    have hat := congrArg (·[i]?) h
    simpa [hi, hi'] using hat
  refine ⟨.inr ⟨i, ((context.spoken text).get ⟨i, hi⟩).2, ?_, ?_⟩, hline⟩
  · exact List.getElem?_eq_getElem hi
  · rw [hline]
    exact List.getElem?_eq_getElem hi'

end RunContext

/-! ## Reading spoken lines -/

namespace Step

variable {H : Type} {context : RunContext} {current : OpenBlock} {line : ℕ}

/-- Reads lines that have numbers, and ends the last block. -/
def readNumbered (context : RunContext) (current : OpenBlock) :
    List (ℕ × Text) → Step H LocatedFault Unit
  | [] => closeOpen context current
  | (line, text) :: more => do
    let current ← readLine context current text line
    readNumbered context current more

/-- A line leaves a source block open if its header opened one. -/
theorem readLine_yields_isSource (text : Text) :
    Yields (fun next => next.block.isSource = context.sourceAfter current.block.isSource text)
      (readLine context current text line : Step H LocatedFault OpenBlock) := by
  unfold readLine RunContext.sourceAfter
  split
  · rename_i hheader
    rw [headerLine_eq]
    refine .last fun _ => ?_
    intro s events next t hopen
    obtain ⟨header, hat, rfl⟩ := openAt_yields_header hheader hopen
    rw [hat]
    rfl
  · cases hsource : current.block.isSource with
    | false => exact bodyLine_yields_isSource hsource text
    | true =>
      rw [bodyLine_of_isSource hsource]
      exact .pure ((Block.isSource_fill _ _).trans hsource)

/-- Only the lines that say something are read. -/
theorem runs_readLines_iff {lines : List Text} {s t : RunState H} {events : List (Event H)}
    {r : Except LocatedFault Unit} :
    (readLines context current line lines : Step H LocatedFault Unit).Runs s events r t ↔
      (readNumbered context current
        (context.spokenFrom current.block.isSource line lines)).Runs s events r t := by
  induction lines generalizing current line s events with
  | nil => exact Iff.rfl
  | cons text more ih =>
    rw [readLines, RunContext.spokenFrom]
    split
    · -- A silent line is skipped, since no source block takes it.
      rename_i hsilent
      obtain ⟨hsource, hsilent⟩ := Bool.and_eq_true_iff.mp hsilent
      have hcollect : current.block.collect? text = none := by
        rw [Block.collect?_eq, if_neg (by simpa using hsource)]
      have hline : (readLine context current text line : Step H LocatedFault OpenBlock) =
          pure current := by
        rw [readLine, if_neg (RunContext.head?_ne_of_isSilent hsilent), bodyLine, hcollect]
        exact if_pos hsilent
      rw [hline, pure_bind]
      exact ih
    · -- Any other line leaves a block open that takes silent lines or not, as its header says.
      have hnext {next : OpenBlock} {before : List (Event H)} {u : RunState H}
          (hline : (readLine context current text line).Runs s before (.ok next) u) :
          next.block.isSource = context.sourceAfter current.block.isSource text :=
        readLine_yields_isSource text hline
      simp only [readNumbered, runs_bind_iff]
      constructor
      · rintro (⟨before, next, u, rest, hline, hrest, rfl⟩ | hfault)
        · exact .inl ⟨before, next, u, rest, hline, hnext hline ▸ ih.mp hrest, rfl⟩
        · exact .inr hfault
      · rintro (⟨before, next, u, rest, hline, hrest, rfl⟩ | hfault)
        · exact .inl ⟨before, next, u, rest, hline, ih.mpr (hnext hline ▸ hrest), rfl⟩
        · exact .inr hfault

variable {ρ : ℕ → ℕ → Prop}

/-- The same lines with related numbers are read alike, line by line. -/
theorem readNumbered_renumbered {lines lines' : List (ℕ × Text)} {current current' : OpenBlock}
    (hlines : List.Forall₂ (fun p p' => ρ p.1 p'.1 ∧ p.2 = p'.2) lines lines')
    (hcurrent : current.Renumbered ρ current') :
    Matches (Event.Renumbered context.file ρ) (LocatedFault.Renumbered ρ) (· = ·)
      (readNumbered context current lines : Step H LocatedFault Unit)
      (readNumbered context current' lines') := by
  induction hlines generalizing current current' with
  | nil => exact closeOpen_renumbered hcurrent
  | @cons p p' lines lines' hp _ ih =>
    obtain ⟨line, text⟩ := p
    obtain ⟨line', text'⟩ := p'
    obtain ⟨hline, rfl⟩ := hp
    exact .bind (readLine_renumbered hcurrent text hline) fun _ _ hnext => ih hnext

/-! ## Files that say the same -/

section SaysSame

variable {text text' : Text}

/-- What is live is destroyed alike. -/
theorem teardown_renumbered :
    Matches (Event.Renumbered context.file ρ) (LocatedFault.Renumbered ρ) (· = ·)
      (teardown : Step H LocatedFault Unit) teardown :=
  teardown_same.mono (·.renumbered)

/-- Whether a run breaks off depends on the cause of a fault only, and the causes are the same. -/
theorem stop_renumbered {fault fault' : LocatedFault}
    (hfault : fault.Renumbered (context.Corresponds text text') fault') :
    Matches (Event.Renumbered context.file (context.Corresponds text text'))
      (LocatedFault.Renumbered (context.Corresponds text text')) (· = ·)
      (stop fault : Step H LocatedFault Unit) (stop fault') := by
  rw [stop, stop, hfault.fault]
  exact .ite (.refuse hfault) (.bind teardown_renumbered fun _ _ _ => .refuse hfault)

variable (h : context.SaysSame text text')

include h

/-- Files that say the same are read alike but for their lines. -/
theorem readFile_renumbered :
    Matches (Event.Renumbered context.file (context.Corresponds text text'))
      (LocatedFault.Renumbered (context.Corresponds text text')) (· = ·)
      (readFile context text : Step H LocatedFault Unit) (readFile context text') := by
  intro s events r t hrun
  have hstart : OpenBlock.Renumbered (context.Corresponds text text') ⟨.none, 0⟩ ⟨.none, 0⟩ :=
    ⟨rfl, .inl ⟨rfl, rfl⟩⟩
  obtain ⟨events', r', hrun', hevents⟩ :=
    readNumbered_renumbered h.forall₂ hstart (runs_readLines_iff.mp hrun)
  exact ⟨events', r', runs_readLines_iff.mpr hrun', hevents⟩

theorem readAndTearDown_renumbered :
    Matches (Event.Renumbered context.file (context.Corresponds text text'))
      (LocatedFault.Renumbered (context.Corresponds text text')) (· = ·)
      (readAndTearDown context text : Step H LocatedFault Unit)
      (readAndTearDown context text') :=
  .bind (.tryCatch (readFile_renumbered h) fun _ _ hfault => stop_renumbered hfault)
    fun _ _ _ => teardown_renumbered

end SaysSame

end Step

section Files

variable {H : Type} {context : RunContext} {text text' : Text}

/-- Whatever a run of a file does, a run of a file that says the same does too, with the same
    answers.  Only line numbers differ. -/
theorem renumbered_of_runs (h : context.SaysSame text text') {events : List (Event H)}
    {result : RunResult} (hrun : (runFile H context text).Runs events result) :
    ∃ events' result', (runFile H context text').Runs events' result' ∧
      List.Forall₂ (Event.Renumbered context.file (context.Corresponds text text')) events events' ∧
      Agree (LocatedFault.Renumbered (context.Corresponds text text')) (· = ·) result result' := by
  obtain ⟨reading, r, t, hreading, hends⟩ := runs_runFile_iff.mp hrun
  obtain ⟨reading', r', hreading', hevents, hr⟩ := readAndTearDown_renumbered h hreading
  -- The log entries around the file do not speak of lines.
  have hlog (s : RunState H) (entry : LogEntry) : Event.Renumbered context.file
      (context.Corresponds text text') (s.asked (.log entry) ()) (s.asked (.log entry) ()) :=
    .request s.session (.log entry) ()
  obtain ⟨fault, rfl, rfl, rfl⟩ | ⟨rfl, rfl, rfl⟩ := hends
  · obtain _ | hfault := hr
    exact ⟨_, _, runs_runFile_iff.mpr ⟨reading', _, t, hreading', .inl ⟨_, rfl, rfl, rfl⟩⟩,
      .cons (hlog _ _) hevents, .error hfault⟩
  · obtain hvalue | _ := hr
    exact ⟨_, _, runs_runFile_iff.mpr ⟨reading', _, t, hreading', .inr ⟨rfl, rfl, rfl⟩⟩,
      .cons (hlog _ _) (List.rel_append hevents (.cons (hlog _ _) .nil)), .ok rfl⟩

/-- Bodies of source blocks are passed on as they stand, and elsewhere silent lines only count. -/
structure SourcesVerbatim (H : Type) (context : RunContext) (text : Text) : Prop where
  /-- What is stored and preprocessed at the ends of the source blocks, one after the other, are
      their whole bodies.  A fault keeps back what comes after it. -/
  handed : ∀ {events : List (Event H)} {result : RunResult},
    (runFile H context text).Runs events result →
      ∃ blocks, HandsOver context blocks events ∧
        blocks <+: sourceBlocks context 1 (Text.lines text) ∧
        ∀ summary, result = .ok summary → blocks = sourceBlocks context 1 (Text.lines text)
  /-- The stage of a shader block has its source when the block has ended. -/
  stored : ∀ {header : ShaderHeader} {source : Text} {line : ℕ} {s t : RunState H}
    {events : List (Event H)} {r : Except LocatedFault Unit},
    (closeOpen context ⟨.shader header source, line⟩).Runs s events r t →
      (t.session.stage header.type).source = some ⟨source, header.format⟩
  /-- A body is read in one go, up to the next header or the end of the file: nothing is asked,
      noted or refused at any of its lines. -/
  unread : ∀ (current : OpenBlock) (line : ℕ) (lines : List Text), current.block.isSource = true →
    (readLines context current line lines : Step H LocatedFault Unit) =
      readLines context { current with block := current.block.fill (bodyLines lines) }
        (line + (bodyLines lines).length) (lines.drop (bodyLines lines).length)
  /-- However many silent lines come and go where no source block is open, whatever happened
      before can happen then, in the same sessions and with the same answers.  Only the numbers of
      lines differ. -/
  silent : ∀ (text' : Text),
    Relation.EqvGen context.InsertsSilent (Text.lines text) (Text.lines text') →
      ∀ {events : List (Event H)} {result : RunResult},
        (runFile H context text).Runs events result →
          ∃ events' result', (runFile H context text').Runs events' result' ∧
            List.Forall₂ (Event.Renumbered context.file (context.Corresponds text text')) events
              events' ∧
            Agree (LocatedFault.Renumbered (context.Corresponds text text')) (· = ·) result result'

/-- Sources are handed over as they stand, and silent lines elsewhere change line numbers only. -/
theorem sources_verbatim (H : Type) (context : RunContext) (text : Text) :
    SourcesVerbatim H context text where
  handed := handsOver_of_runs
  stored := source_of_closeOpen
  unread _ _ lines hsource := readLines_source hsource lines
  silent _ hsilent _ _ hrun := renumbered_of_runs (RunContext.saysSame_of_eqvGen hsilent) hrun

/-- A file with comments and blank lines in two source blocks, and some text below them. -/
def annotated (below : String) : Text :=
  ("[pixel shader]\n% kept\n\n  body \n[preproc]\n% pass\n[require]\n" ++ below).toList

/-- A run of it that only compiles. -/
def annotatedRun : RunContext := ⟨"annotated", .compileOnly, .plain⟩

/-- A file whose source has lines that would be silent elsewhere. -/
theorem sources_verbatim_annotated :
    (sourceBlocks annotatedRun 1 (Text.lines (annotated "% gone\nshader model >= 4.0\n"))).map
        (fun current => (current.line, current.block.source?)) =
      [(1, some "% kept\n\n  body \n".toList), (5, some "% pass\n".toList)] ∧
    HandsOver annotatedRun
      (sourceBlocks annotatedRun 1 (Text.lines (annotated "% gone\nshader model >= 4.0\n")))
      (journalEvents .willing none annotatedRun (annotated "% gone\nshader model >= 4.0\n")) ∧
    ∃ events' result',
      (runFile Nat annotatedRun (annotated "shader model >= 4.0\n")).Runs events' result' ∧
      events'.length = (journalEvents .willing none annotatedRun
        (annotated "% gone\nshader model >= 4.0\n")).length := by
  have hverbatim := sources_verbatim Nat annotatedRun (annotated "% gone\nshader model >= 4.0\n")
  have hrun := runs_journalEvents .willing none annotatedRun
    (annotated "% gone\nshader model >= 4.0\n")
  refine ⟨by decide +kernel, ?_, ?_⟩
  · obtain ⟨blocks, hblocks, -, hwhole⟩ := hverbatim.handed hrun
    have hok : (runFileWith (Journal.surroundings .willing) annotatedRun
        (annotated "% gone\nshader model >= 4.0\n") (.fresh none)).1 = .ok ⟨4, 0, 0, 0, 0⟩ := by
      decide +kernel
    rwa [hwhole _ hok] at hblocks
  · -- The comment below the last header is one silent line more.
    have hinserts : annotatedRun.InsertsSilent (Text.lines (annotated "shader model >= 4.0\n"))
        (Text.lines (annotated "% gone\nshader model >= 4.0\n")) :=
      ⟨Text.lines (annotated ""), "% gone".toList, ["shader model >= 4.0".toList],
        by decide +kernel⟩
    obtain ⟨events', result', hrun', hevents, -⟩ :=
      hverbatim.silent _ (.symm _ _ (.rel _ _ hinserts)) hrun
    exact ⟨events', result', hrun', hevents.length_eq.symm⟩

end Files

end ShaderConformance
