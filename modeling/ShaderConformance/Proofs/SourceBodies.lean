import ShaderConformance.Proofs.Invariants
import ShaderConformance.Proofs.QualifierUse
import ShaderConformance.Proofs.Renumbering

/-!
# Source bodies

The lines below the header of a shader or preprocessor block, up to the next header or the end
of the file, are its source as they stand.  Which source blocks a file has, and what their
sources are, can be read off its lines: headers do not depend on the course of the run.

## Main definitions

- `bodyLines`: the lines that belong to the header before them
- `Step.sourceBlocks`: the source blocks of some lines, with their bodies
- `HandsOver`: source blocks end one after the other, and each one is handed over at once

## Main statements

- `Step.readLines_source`: the body of a source block is read in one go
- `Step.source_of_closeOpen`: the stage of a shader block has its source in the end
- `Step.readLines_handsOver`: reading lines hands over the source blocks of the lines
- `handsOver_of_runs`: so does a run of a file
-/

namespace ShaderConformance

open Text

/-! ## Headers -/

/-- Which header a line is does not depend on the lowest model. -/
theorem BlockHeader.read_eq_of_lowest (m m' : ShaderModel) (tags : List String) (line : Text) :
    BlockHeader.read ⟨m, tags⟩ line = BlockHeader.read ⟨m', tags⟩ line := by
  simp only [BlockHeader.read, ShaderHeader.read_eq_of_tags m m' tags]

/-- The header that a line is in some runs, if it is one. -/
def RunContext.headerAt? (context : RunContext) (text : Text) : Option BlockHeader :=
  if text.head? = some '[' then (BlockHeader.read ⟨.oldest, context.caps.tags⟩ text).toOption
  else none

/-! ## Bodies -/

/-- The lines that belong to the header before them. -/
def bodyLines (lines : List Text) : List Text := lines.takeWhile fun text => text.head? ≠ some '['

/-- Some lines as they stand, each with a line feed. -/
def sourceText (lines : List Text) : Text := lines.flatMap fun text => text ++ ['\n']

/-- A source block with some lines more. -/
def Block.fill (lines : List Text) : Block → Block
  | .shader header text => .shader header (text ++ sourceText lines)
  | .preproc refused text => .preproc refused (text ++ sourceText lines)
  | block => block

/-- A header ends the lines of a body. -/
theorem bodyLines_header {text : Text} (h : text.head? = some '[') (more : List Text) :
    bodyLines (text :: more) = [] := by
  simp [bodyLines, h]

theorem bodyLines_cons {text : Text} (h : text.head? ≠ some '[') (more : List Text) :
    bodyLines (text :: more) = text :: bodyLines more := by
  simp [bodyLines, h]

theorem Block.fill_nil (block : Block) : block.fill [] = block := by
  cases block <;> simp [fill, sourceText]

/-- A block is filled line by line. -/
theorem Block.fill_fill (block : Block) (text : Text) (lines : List Text) :
    (block.fill [text]).fill lines = block.fill (text :: lines) := by
  cases block <;> simp [fill, sourceText]

/-- A block of a source stays one. -/
theorem Block.isSource_fill (block : Block) (lines : List Text) :
    (block.fill lines).isSource = block.isSource := by
  cases block <;> rfl

/-- Source blocks collect every line that they are given. -/
theorem Block.collect?_eq (block : Block) (text : Text) :
    block.collect? text = if block.isSource then some (block.fill [text]) else Option.none := by
  cases block <;> simp [collect?, isSource, source?, fill, sourceText]

namespace Step

variable {H : Type} {context : RunContext} {current : OpenBlock} {line : ℕ}

/-- A line of a source is kept as it stands, and nothing is asked. -/
theorem bodyLine_of_isSource (h : current.block.isSource = true) (text : Text) :
    (bodyLine context current text line : Step H LocatedFault OpenBlock) =
      pure { current with block := current.block.fill [text] } := by
  rw [bodyLine, Block.collect?_eq, if_pos h]

/-- The body of a source block is read in one go: none of its lines is looked at. -/
theorem readLines_source (hsource : current.block.isSource = true) (lines : List Text) :
    (readLines context current line lines : Step H LocatedFault Unit) =
      readLines context { current with block := current.block.fill (bodyLines lines) }
        (line + (bodyLines lines).length) (lines.drop (bodyLines lines).length) := by
  induction lines generalizing current line with
  | nil => simp [bodyLines, Block.fill_nil]
  | cons text more ih =>
    by_cases hheader : text.head? = some '['
    · simp [bodyLines_header hheader, Block.fill_nil]
    · have hfilled : (current.block.fill [text]).isSource = true := by
        rwa [Block.isSource_fill]
      have hline : line + 1 + (bodyLines more).length = line + (text :: bodyLines more).length := by
        simp only [List.length_cons]
        omega
      rw [readLines, readLine, if_neg hheader, bodyLine_of_isSource hsource, pure_bind, ih hfilled,
        bodyLines_cons hheader, Block.fill_fill, hline, List.length_cons, List.drop_succ_cons]

/-! ## Source blocks of lines -/

/-- The open block with the lines that still belong to it, if it collects source. -/
def OpenBlock.pending (current : OpenBlock) (lines : List Text) : List OpenBlock :=
  if current.block.isSource then [{ current with block := current.block.fill (bodyLines lines) }]
  else []

/-- The source blocks that the headers among some lines open, with their bodies. -/
def sourceBlocks (context : RunContext) (line : ℕ) : List Text → List OpenBlock
  | [] => []
  | text :: more =>
    match context.headerAt? text with
    | some header =>
      OpenBlock.pending ⟨.ofHeader header, line⟩ more ++ sourceBlocks context (line + 1) more
    | none => sourceBlocks context (line + 1) more

/-- An open source is pending with all lines of its body. -/
theorem OpenBlock.pending_of_isSource (h : current.block.isSource = true)
    (lines : List Text) :
    current.pending lines = [{ current with block := current.block.fill (bodyLines lines) }] :=
  if_pos h

/-- Nothing else is pending. -/
theorem OpenBlock.pending_of_isSource_eq_false (h : current.block.isSource = false)
    (lines : List Text) : current.pending lines = [] :=
  if_neg (ne_true_of_eq_false h)

/-- A header leaves what is pending without its lines. -/
theorem OpenBlock.pending_header {text : Text} (h : text.head? = some '[') (more : List Text) :
    current.pending (text :: more) = current.pending [] := by
  rw [pending, pending, bodyLines_header h]
  rfl

theorem sourceBlocks_cons {text : Text} (h : text.head? ≠ some '[') (more : List Text) :
    sourceBlocks context line (text :: more) = sourceBlocks context (line + 1) more := by
  rw [sourceBlocks, RunContext.headerAt?, if_neg h]

end Step

/-! ## What is handed over -/

open Step

/-- The source blocks of a list end one after the other, and what each one has collected is stored
    or preprocessed at once.  Apart from that nothing but the vertex shaders of quads is. -/
inductive HandsOver {H : Type} (context : RunContext) : List OpenBlock → List (Event H) → Prop
  | nil : HandsOver context [] []
  | other {event : Event H} {blocks : List OpenBlock} {events : List (Event H)}
      (hevent : event.handsOver = false) (rest : HandsOver context blocks events) :
      HandsOver context blocks (event :: events)
  /-- A shader is stored whatever the tests of the file do. -/
  | shader (s : RunState H) (header : ShaderHeader) (text : Text) (line : ℕ)
      {blocks : List OpenBlock} {events : List (Event H)} (rest : HandsOver context blocks events) :
      HandsOver context (⟨.shader header text, line⟩ :: blocks)
        (s.noted (.turn (.close (.shader header text) line)) ::
          s.noted (.store header.type ⟨text, header.format⟩) :: events)
  | preproc (s : RunState H) (refused : Bool) (text : Text) (line : ℕ)
      (a : Except CompileError Text) {blocks : List OpenBlock} {events : List (Event H)}
      (hcounts : context.mode = .compileOnly ∧ s.session.action ≠ .skip)
      (rest : HandsOver context blocks events) :
      HandsOver context (⟨.preproc refused text, line⟩ :: blocks)
        (s.noted (.turn (.close (.preproc refused text) line)) ::
          s.asked (.preprocess text) a :: events)
  /-- Preprocessor blocks do not count when tests are executed or skipped. -/
  | idle (s : RunState H) (refused : Bool) (text : Text) (line : ℕ) {blocks : List OpenBlock}
      {events : List (Event H)} (hidle : ¬ (context.mode = .compileOnly ∧ s.session.action ≠ .skip))
      (rest : HandsOver context blocks events) :
      HandsOver context (⟨.preproc refused text, line⟩ :: blocks)
        (s.noted (.turn (.close (.preproc refused text) line)) :: events)

namespace HandsOver

variable {H : Type} {context : RunContext} {blocks blocks' : List OpenBlock}
  {events events' : List (Event H)}

/-- Where nothing is handed over, there is no source. -/
theorem of_others (h : ∀ event ∈ events, event.handsOver = false) :
    HandsOver context [] events := by
  induction events with
  | nil => exact .nil
  | cons event events ih =>
    obtain ⟨hevent, hevents⟩ := List.forall_mem_cons.mp h
    exact .other hevent (ih hevents)

/-- Sources are handed over in order. -/
theorem append (h : HandsOver context blocks events) (h' : HandsOver context blocks' events') :
    HandsOver context (blocks ++ blocks') (events ++ events') := by
  induction h with
  | nil => exact h'
  | other hevent _ ih => exact .other hevent ih
  | shader s header text line _ ih => exact .shader s header text line ih
  | preproc s refused text line a hcounts _ ih => exact .preproc s refused text line a hcounts ih
  | idle s refused text line hidle _ ih => exact .idle s refused text line hidle ih

end HandsOver

namespace Step

variable {H E : Type} {context : RunContext} {current : OpenBlock} {line : ℕ} {s t : RunState H}
  {events : List (Event H)}

/-! ## Ends of blocks -/

/-- The end of a shader block hands its source over, and nothing else. -/
theorem handsOver_of_finishShader {header : ShaderHeader} {text : Text} {r : Except E Unit}
    (hrun : (finishShader context header text line : Step H E Unit).Runs s events r t) :
    HandsOver context [⟨.shader header text, line⟩]
      (s.noted (.turn (.close (.shader header text) line)) :: events) := by
  obtain ⟨rest, rfl, hrest⟩ := runs_note_bind_iff.mp hrun
  have hothers := handsOver_of_matches
    (compileStored_alike header ⟨text, header.format⟩ (Eq.refl line)) hrest
  exact .shader s header text line (.of_others hothers)

/-- The end of a preprocessor block hands its text over at most. -/
theorem handsOver_of_finishPreproc {refused : Bool} {text : Text} {r : Except E Unit}
    (hrun : (finishPreproc context text refused line : Step H E Unit).Runs s events r t) :
    HandsOver context [⟨.preproc refused text, line⟩]
      (s.noted (.turn (.close (.preproc refused text) line)) :: events) := by
  rw [finishPreproc, runs_session_bind_iff] at hrun
  split at hrun
  · rename_i hcounts
    obtain ⟨a, rest, rfl, hrest⟩ := runs_ask_bind_iff.mp hrun
    have hothers := handsOver_of_matches (checkPreproc_alike a refused (Eq.refl line)) hrest
    exact .preproc s refused text line a hcounts (.of_others hothers)
  · rename_i hidle
    obtain ⟨rfl, -, -⟩ := runs_pure_iff.mp hrun
    exact .idle s refused text line hidle .nil

/-- At its end a source block is handed over, and no other block is. -/
theorem handsOver_of_closeOpen {r : Except LocatedFault Unit}
    (hrun : (closeOpen context current : Step H LocatedFault Unit).Runs s events r t) :
    HandsOver context (current.pending []) events := by
  obtain ⟨r', hfinish, -⟩ := runs_mapFault_iff.mp hrun
  obtain ⟨block, line⟩ := current
  cases hsource : block.isSource with
  | false =>
    have hothers := handsOver_of_matches (finishBlock_alike hsource (Eq.refl line)) hfinish
    rw [OpenBlock.pending_of_isSource_eq_false hsource]
    exact .of_others hothers
  | true =>
    rw [OpenBlock.pending_of_isSource hsource]
    obtain ⟨rest, rfl, hrest⟩ := runs_note_bind_iff.mp hfinish
    simp only [bodyLines, List.takeWhile_nil, Block.fill_nil]
    cases block with
    | shader header text => exact handsOver_of_finishShader hrest
    | preproc refused text => exact handsOver_of_finishPreproc hrest
    | none | inputLayout | test | require | resource | sampler => cases hsource

/-- Nothing but storing another source takes one from a stage. -/
theorem isSteady_source (type : ShaderType) (source : ShaderSource) :
    IsSteady fun (_ : List (Event H)) session => (session.stage type).source = some source where
  quiet _ _ _ _ _ h := h
  settings _ _ _ _ _ _ _ h := h
  samplers _ _ _ h := h

/-- To run a block leaves its source as it was stored. -/
theorem runBlock_upholds_source (header : ShaderHeader) (source : ShaderSource) :
    Upholds (fun _ session => (session.stage header.type).source = some source)
      (runBlock context header source line : Step H E Unit) := by
  have hsteady := isSteady_source (H := H) header.type source
  refine .ite (.session_bind fun session => ?_) (.bind (hsteady.log_upholds _ _) fun _ =>
    .modifySession fun _ _ h => h)
  refine .bind (hsteady.compile_upholds _ _ _) fun result =>
    .bind (hsteady.checkCompile_upholds header _ result line) fun _ =>
      .modifySession fun _ session h => ?_
  simpa [Session.setCompiled, Session.setStage, Stage.withCompiled] using h

/-- After the end of a shader block its stage has its source. -/
theorem source_of_closeOpen {header : ShaderHeader} {text : Text} {r : Except LocatedFault Unit}
    (hrun : (closeOpen context ⟨.shader header text, line⟩ : Step H LocatedFault Unit).Runs s events
      r t) :
    (t.session.stage header.type).source = some ⟨text, header.format⟩ := by
  obtain ⟨r', hfinish, -⟩ := runs_mapFault_iff.mp hrun
  obtain ⟨_, rfl, hshader⟩ := runs_note_bind_iff.mp hfinish
  obtain ⟨_, rfl, hstored⟩ := runs_note_bind_iff.mp hshader
  rw [runs_modifySession_bind_iff, runs_session_bind_iff] at hstored
  have hstart : ((s.update (·.setSource header.type ⟨text, header.format⟩)).session.stage
      header.type).source = some ⟨text, header.format⟩ := by
    simp [Session.setSource, Session.setStage, Stage.ofSource]
  have hsteady := isSteady_source (H := H) header.type ⟨text, header.format⟩
  split at hstored
  · obtain ⟨-, -, rfl⟩ := runs_pure_iff.mp hstored
    exact hstart
  · have hkept := hsteady.compileBlock_upholds header ⟨text, header.format⟩ line hstored
    exact @hkept [] hstart
  · have hkept := runBlock_upholds_source header ⟨text, header.format⟩ hstored
    exact @hkept [] hstart

/-! ## Lines -/

/-- The header of a block can be read off its line. -/
theorem openBlock_yields_header {text : Text} (hheader : text.head? = some '[') :
    Yields (fun block => ∃ header, context.headerAt? text = some header ∧
      block = Block.ofHeader header) (openBlock context text : Step H Fault Block) := by
  have hcontext : Yields (fun c => BlockHeader.read c text =
        BlockHeader.read ⟨.oldest, context.caps.tags⟩ text)
      (qualifierContext context : Step H Fault QualifierContext) := by
    intro s events c t hrun
    rw [qualifierContext, runs_session_bind_iff] at hrun
    obtain ⟨-, hc, -⟩ := runs_pure_iff.mp hrun
    cases hc
    exact BlockHeader.read_eq_of_lowest _ _ _ text
  refine .bind hcontext fun c hc => .bind (.ofExcept _) fun header hread => ?_
  have hat : context.headerAt? text = some header := by
    rw [RunContext.headerAt?, if_pos hheader, ← hc, hread]
    rfl
  cases header with
  | inputLayout => exact .last fun _ => .pure ⟨_, hat, rfl⟩
  | require | test | preproc | shader | resource | sampler => exact .pure ⟨_, hat, rfl⟩

/-- A header opens the block that it names. -/
theorem openAt_yields_header {text : Text} (hheader : text.head? = some '[') :
    Yields (fun next => ∃ header, context.headerAt? text = some header ∧
      next = ⟨Block.ofHeader header, line⟩)
      (openAt context text line : Step H LocatedFault OpenBlock) := by
  refine .bind (.mapFault _ (openBlock_yields_header hheader)) fun block hblock => .last fun _ => ?_
  obtain ⟨header, hat, rfl⟩ := hblock
  exact .pure ⟨header, hat, rfl⟩

/-- A line leaves a block that collects no source. -/
theorem takeLine_yields_isSource {block : Block} (hblock : block.isSource = false) (text : Text) :
    Yields (·.isSource = false) (takeLine context block text line : Step H Fault Block) := by
  have htaken {T : Type} {make : T → Block} (hmake : ∀ value, (make value).isSource = false)
      (result : T × Option Fault) :
      Yields (·.isSource = false) (taken make result : Step H Fault Block) := by
    obtain ⟨value, fault⟩ := result
    cases fault with
    | none => exact .pure (hmake value)
    | some fault => exact .refuse fault
  cases block with
  | none => exact .refuse _
  | inputLayout => exact .last fun _ => .last fun _ => .pure rfl
  | require | resource | sampler => exact htaken (fun _ => rfl) _
  | test => exact .last fun _ => .pure rfl
  | shader | preproc => cases hblock

/-- No line turns another block into a source. -/
theorem bodyLine_yields_isSource (hcurrent : current.block.isSource = false) (text : Text) :
    Yields (·.block.isSource = false)
      (bodyLine context current text line : Step H LocatedFault OpenBlock) := by
  unfold bodyLine
  rw [Block.collect?_eq, if_neg (ne_true_of_eq_false hcurrent)]
  dsimp only
  split
  · exact .pure hcurrent
  · exact .last fun _ => .bind (.mapFault _ (takeLine_yields_isSource hcurrent text))
      fun _ hblock => .pure hblock

/-- A header hands over the block before it, and opens its own. -/
theorem headerLine_handsOver {text : Text} (hheader : text.head? = some '[')
    {r : Except LocatedFault OpenBlock}
    (hrun : (headerLine context current text line : Step H LocatedFault OpenBlock).Runs s events
      r t) :
    HandsOver context (current.pending []) events ∧
      ∀ next, r = .ok next → ∃ header, context.headerAt? text = some header ∧
        next = ⟨.ofHeader header, line⟩ := by
  rw [headerLine_eq] at hrun
  obtain ⟨before, _, u, rest, hclose, hopen, rfl⟩ | ⟨e, hclose, rfl⟩ := runs_bind_iff.mp hrun
  · have hothers := handsOver_of_matches (openAt_alike text (Eq.refl line)) hopen
    have hevents := (handsOver_of_closeOpen hclose).append (.of_others hothers)
    rw [List.append_nil] at hevents
    refine ⟨hevents, ?_⟩
    rintro next rfl
    exact openAt_yields_header hheader hopen
  · exact ⟨handsOver_of_closeOpen hclose, fun next hok => by cases hok⟩

/-- A line below a header hands nothing over. -/
theorem bodyLine_handsOver {text : Text} {r : Except LocatedFault OpenBlock}
    (hrun : (bodyLine context current text line : Step H LocatedFault OpenBlock).Runs s events
      r t) : HandsOver context [] events := by
  have hsame : OpenBlock.Renumbered Eq current current := ⟨rfl, rfl⟩
  exact .of_others (handsOver_of_matches (bodyLine_alike hsame text (Eq.refl line)) hrun)

/-- Reading lines hands over the open block, if it is a source block, and those of the lines.  A
    fault keeps back what comes after it. -/
theorem readLines_handsOver {lines : List Text} {r : Except LocatedFault Unit}
    (hrun : (readLines context current line lines : Step H LocatedFault Unit).Runs s events r t) :
    ∃ blocks, HandsOver context blocks events ∧
      blocks <+: current.pending lines ++ sourceBlocks context line lines ∧
      (r = .ok () → blocks = current.pending lines ++ sourceBlocks context line lines) := by
  induction lines generalizing current line s events with
  | nil =>
    -- The end of the file ends the open block.
    have hclose := handsOver_of_closeOpen hrun
    rw [sourceBlocks, List.append_nil]
    exact ⟨_, hclose, List.prefix_rfl, fun _ => rfl⟩
  | cons text more ih =>
    rw [readLines, readLine] at hrun
    by_cases hheader : text.head? = some '['
    · rw [if_pos hheader] at hrun
      rw [OpenBlock.pending_header hheader]
      obtain ⟨before, next, u, rest, hline, hrest, rfl⟩ | ⟨e, hline, rfl⟩ := runs_bind_iff.mp hrun
      · -- The header opens a block, and the other lines follow.
        obtain ⟨hbefore, hnext⟩ := headerLine_handsOver hheader hline
        obtain ⟨header, hat, rfl⟩ := hnext next rfl
        obtain ⟨blocks, hblocks, hprefix, hwhole⟩ := ih hrest
        simp only [sourceBlocks, hat]
        exact ⟨_, hbefore.append hblocks, (List.prefix_append_right_inj _).mpr hprefix,
          fun hok => congrArg _ (hwhole hok)⟩
      · have hbefore := (headerLine_handsOver hheader hline).1
        exact ⟨_, hbefore, List.prefix_append _ _, fun hok => by cases hok⟩
    · rw [if_neg hheader] at hrun
      rw [sourceBlocks_cons hheader]
      cases hsource : current.block.isSource with
      | true =>
        -- The line joins the source.
        rw [bodyLine_of_isSource hsource, pure_bind] at hrun
        have hfilled : (current.block.fill [text]).isSource = true := by
          rwa [Block.isSource_fill]
        have hpending : OpenBlock.pending { current with block := current.block.fill [text] } more =
            current.pending (text :: more) := by
          rw [OpenBlock.pending_of_isSource hfilled, OpenBlock.pending_of_isSource hsource,
            bodyLines_cons hheader, Block.fill_fill]
        rw [← hpending]
        exact ih hrun
      | false =>
        rw [OpenBlock.pending_of_isSource_eq_false hsource]
        obtain ⟨before, next, u, rest, hline, hrest, rfl⟩ | ⟨e, hline, rfl⟩ :=
          runs_bind_iff.mp hrun
        · -- No source block is open after the line either.
          have hnext := bodyLine_yields_isSource hsource text hline
          obtain ⟨blocks, hblocks, hread⟩ := ih hrest
          rw [OpenBlock.pending_of_isSource_eq_false hnext] at hread
          exact ⟨blocks, (bodyLine_handsOver hline).append hblocks, hread⟩
        · exact ⟨[], bodyLine_handsOver hline, List.nil_prefix, fun hok => by cases hok⟩

end Step

/-! ## Runs of files -/

variable {H : Type} {context : RunContext}

/-- A run of a file hands over its source blocks, each with all the lines of its body.  A fault
    keeps back what comes after it. -/
theorem handsOver_of_runs {text : Text} {events : List (Event H)} {result : RunResult}
    (hrun : (runFile H context text).Runs events result) :
    ∃ blocks, HandsOver context blocks events ∧
      blocks <+: sourceBlocks context 1 (Text.lines text) ∧
      (∀ summary, result = .ok summary → blocks = sourceBlocks context 1 (Text.lines text)) := by
  obtain ⟨reading, r, u, hreading, hends⟩ := runs_runFile_iff.mp hrun
  obtain ⟨read, t, hread, hdown⟩ := readAndTearDown_reads hreading
  obtain ⟨blocks, hblocks, hprefix, hwhole⟩ := readLines_handsOver hread
  -- No block is open when a file begins.
  have hstart : OpenBlock.pending ⟨.none, 0⟩ (Text.lines text) = [] :=
    OpenBlock.pending_of_isSource_eq_false rfl _
  rw [hstart, List.nil_append] at hprefix hwhole
  -- Neither the log entries around the file nor the teardown hands anything over.
  have hteardown : HandsOver context [] t.teardownEvents := by
    refine .of_others fun event hevent => ?_
    obtain ⟨resource, -, rfl⟩ := List.mem_map.mp hevent
    rfl
  have hreads : HandsOver context blocks reading := by
    obtain ⟨_, -, -, rfl, -⟩ | ⟨-, rfl, -⟩ := hdown
    · exact hblocks
    · have happended := hblocks.append hteardown
      rwa [List.append_nil] at happended
  refine ⟨blocks, ?_, hprefix, ?_⟩
  · obtain ⟨fault, -, -, rfl⟩ | ⟨-, -, rfl⟩ := hends
    · exact .other rfl hreads
    · have hend := hreads.append (.other rfl .nil : HandsOver context []
        [u.asked (.log (context.ends u.summary)) ()])
      rw [List.append_nil] at hend
      exact .other rfl hend
  · rintro summary rfl
    obtain ⟨_, -, hfault, -⟩ | ⟨hr, -, -⟩ := hends
    · cases hfault
    · exact hwhole hr

end ShaderConformance
