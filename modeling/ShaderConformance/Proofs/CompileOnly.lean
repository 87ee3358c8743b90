import ShaderConformance.Proofs.ModelRange

/-!
# What compile-only runs check

A compile-only run compiles the source of a shader block at some models of the range.
Every compile is one check, against what the header of the block expects of that model,
and every model of the range is represented by one that was compiled.

## Main definitions

- `variantCheck`: the check of a compile
- `Summary.record`: the counters after some checks

## Main statements

- `compileVariants_compiled`: what is asked and checked for some models
- `compileOnly_covers`: what the end of a shader block checks
-/

namespace ShaderConformance

/-- The check of a compile against the header of its block. -/
def variantCheck (header : ShaderHeader) (line : Nat) (model : ShaderModel)
    (result : Except CompileError CompiledShader) : Check :=
  let got := CompileStatus.of result
  let expected := header.expected model
  { ok := got = expected, todo := header.todo.contains model, bug := false, line
    message := s!"Compiling the {header.type} at {model}: got {got}, expected {expected}." }

/-- The counters after some checks. -/
def Summary.record (s : Summary) (checks : List Check) : Summary :=
  checks.foldl (fun s c => s.count c.outcome) s

namespace Step

variable {H E : Type} {context : RunContext} {current : OpenBlock} {line : Nat} {s s' : RunState H}
  {events : List (Event H)}

/-- What a check shows. -/
theorem check_shows {c : Check} {r : Except E Unit}
    (h : (check context c : Step H E Unit).Runs s events r s') :
    r = .ok () ∧ calls events = [] ∧ checks events = [c] ∧
      s' = { s with summary := s.summary.record [c] } := by
  obtain ⟨rfl, hr, rfl⟩ := runs_check_iff.mp h
  refine ⟨hr, ?_, ?_, rfl⟩ <;> cases c.entry? context.file <;> simp

/-- A compile is checked once, against what the header expects of its model. -/
theorem checkCompile_shows {header : ShaderHeader} {model : ShaderModel}
    {result : Except CompileError CompiledShader} {r : Except E Unit}
    (h : (checkCompile context header model result line : Step H E Unit).Runs s events r s') :
    r = .ok () ∧ calls events = [] ∧ checks events = [variantCheck header line model result] ∧
      s' = { s with summary := s.summary.record [variantCheck header line model result] } := by
  cases result with
  | ok compiled => exact check_shows h
  | error error =>
    -- The error is logged before the check.
    obtain ⟨⟨⟩, rest, rfl, hcheck⟩ := runs_ask_bind_iff.mp h
    obtain ⟨hr, hcalls, hchecks, hs⟩ := check_shows hcheck
    exact ⟨hr, by simpa using hcalls, hchecks, hs⟩

/-- What is asked and checked when a source is compiled at some models. -/
structure Compiled (header : ShaderHeader) (source : ShaderSource) (line : Nat) (s : RunState H)
    (events : List (Event H)) (s' : RunState H)
    (compiles : List (ShaderModel × Except CompileError CompiledShader)) : Prop where
  /-- Every compile is asked for once, in order, and nothing else is. -/
  asked : calls events = compiles.map fun (model, result) =>
    s.asked (.compile source header.type model s.session.options) result
  /-- Every compile is checked once, in order, and nothing else is. -/
  checked : checks events = compiles.map fun (model, result) =>
    variantCheck header line model result
  /-- The checks are counted. -/
  counted : s' = { s with summary := s.summary.record (checks events) }

/-- Every model is compiled for, in order, and its result checked. -/
theorem compileVariants_compiled {header : ShaderHeader} {source : ShaderSource}
    {models : List ShaderModel} {r : Except E Unit}
    (h : (compileVariants context header source line models : Step H E Unit).Runs s events r s') :
    r = .ok () ∧ ∃ compiles, compiles.map Prod.fst = models ∧
      Compiled header source line s events s' compiles := by
  induction models generalizing s events with
  | nil =>
    obtain ⟨rfl, hr, rfl⟩ := runs_pure_iff.mp h
    exact ⟨hr, [], rfl, rfl, rfl, rfl⟩
  | cons model models ih =>
    obtain ⟨before, result, t, after, ⟨rfl, rfl⟩, hrest, rfl⟩ := Runs.bind_inv h compile_inv
    obtain ⟨before, _, u, after, hcheck, hmore, rfl⟩ | ⟨_, hcheck, -⟩ := runs_bind_iff.mp hrest
    · obtain ⟨-, hcalls, hchecks, rfl⟩ := checkCompile_shows hcheck
      obtain ⟨hr, compiles, rfl, hcompiled⟩ := ih hmore
      -- Counting the first check leaves the session, in which the others are asked.
      refine ⟨hr, (model, result) :: compiles, rfl, ?_, ?_, ?_⟩
      · simp only [List.singleton_append, calls_cons, calls_append, hcalls, List.nil_append,
          hcompiled.asked]
        rfl
      · simp [hchecks, hcompiled.checked]
      · rw [hcompiled.counted]
        simp [hchecks, Summary.record]
    · cases (checkCompile_shows hcheck).1

/-- A shader block of an accepted format is compiled at the variants of the range. -/
theorem finishShader_compiled {header : ShaderHeader} {text : Text} {r : Except E Unit}
    (haction : s.session.action = .compile) (haccepts : context.caps.accepts header.format = true)
    (h : (finishShader context header text line : Step H E Unit).Runs s events r s') :
    r = .ok () ∧ ∃ compiles,
      compiles.map Prod.fst =
        ShaderModel.variants s.session.minimumModel s.session.maximumModel header.expected ∧
      Compiled header ⟨text, header.format⟩ line
        (s.update (·.setSource header.type ⟨text, header.format⟩)) events s' compiles := by
  rw [finishShader] at h
  obtain ⟨rest, rfl, hrest⟩ := runs_note_bind_iff.mp h
  rw [runs_modifySession_bind_iff, runs_session_bind_iff] at hrest
  -- The source does not matter for the test action or the range.
  have hcompile : (s.update (·.setSource header.type ⟨text, header.format⟩)).session.action =
      .compile := haction
  rw [hcompile] at hrest
  dsimp only at hrest
  rw [compileBlock, if_pos haccepts, runs_session_bind_iff] at hrest
  obtain ⟨hr, compiles, hmodels, hcompiled⟩ := compileVariants_compiled hrest
  refine ⟨hr, compiles, hmodels, ?_, ?_, ?_⟩
  · simpa using hcompiled.asked
  · simpa using hcompiled.checked
  · simpa using hcompiled.counted

/-- What a run that only compiles is about. -/
def failingContext : RunContext := ⟨"failing", .compileOnly, .plain⟩

/-- What the lines of a pixel shader come to that old models are expected to refuse. -/
def failingStart : Except LocatedFault OpenBlock × RunState Nat :=
  journalEnd .willing none (readOpen failingContext ⟨.none, 0⟩ 1
    (["[pixel shader fail(sm<4)]", "text"].map String.toList)) (.start failingContext)

/-- Whether a shader block of an accepted format is open. -/
def OpenBlock.isAccepted (caps : Capabilities) (current : OpenBlock) : Bool :=
  match current.block with
  | .shader header _ => caps.accepts header.format
  | _ => false

/-- A block that is open and accepted is that of a shader. -/
theorem exists_accepted_of_any {caps : Capabilities} {result : Except E OpenBlock}
    (h : result.toOption.any (OpenBlock.isAccepted caps) = true) :
    ∃ current header text, result = .ok current ∧ current.block = .shader header text ∧
      caps.accepts header.format = true := by
  cases result with
  | error fault => simp [Except.toOption] at h
  | ok current =>
    have haccepted : current.isAccepted caps = true := by simpa [Except.toOption] using h
    unfold OpenBlock.isAccepted at haccepted
    split at haccepted
    · rename_i header text hblock
      exact ⟨current, header, text, rfl, hblock, haccepted⟩
    · cases haccepted

end Step

end ShaderConformance
