import ShaderConformance.CommandLine.Execution
import ShaderConformance.Json.Basic

/-!
# What the command prints

Counters go to the output, as lines or as one JSON object; log entries and errors go to
the error output.  The command succeeds if every file was run and no check failed.  If a run
breaks off, then nothing is printed but the log.

Main statement:

* `succeeds_ok_iff` when the command succeeds.
-/

namespace ShaderConformance.CommandLine

/-! ## Log entries -/

/-- The name of a topic in log lines. -/
def target : LogTopic → String
  | .report => "shader_runner::report"
  | .run => "shader_runner::runner"
  | .device => "shader_runner_wgpu::runner"

/-- A log entry as a line. -/
def logLine (e : LogEntry) : String := s!"{e.level.name} {target e.topic}: {e.text}"

/-- The least important level that is printed. -/
def shownLevel : (verbosity : Nat) → LogLevel
  | 0 => .warn
  | 1 => .debug
  | _ => .trace

/-- Whether a log entry is printed. -/
def isShown (verbosity : Nat) (e : LogEntry) : Bool :=
  e.level.rank ≤ (shownLevel verbosity).rank

/-! ## Results -/

/-- The sum of the counters of files. -/
def total (results : List FileResult) : Summary :=
  (results.filterMap (·.result.toOption)).foldl (· + ·) .zero

/-- The counters as an object, in the order of their names. -/
def summaryJson (s : Summary) : Json := .object
  [("bug", .ofNat s.bug), ("failed", .ofNat s.failed), ("passed", .ofNat s.passed),
   ("skipped", .ofNat s.skipped), ("todo", .ofNat s.todo)]

def FileResult.toJson (r : FileResult) : Json :=
  match r.result with
  | .ok s => .object [("file", .str r.file), ("summary", summaryJson s)]
  | .error e => .object [("error", .str (e.message r.file)), ("file", .str r.file)]

/-- The line about a file that was run. -/
def FileResult.line? (r : FileResult) : Option String :=
  r.result.toOption.map fun s => s!"{r.file}: {s.text}"

/-- The message about a file that could not be run. -/
def FileResult.error? (r : FileResult) : Option String :=
  match r.result with
  | .ok _ => none
  | .error e => some (e.message r.file)

/-- The results as one object. -/
def resultsJson (results : List FileResult) : Json := .object
  [("files", .ofList FileResult.toJson results), ("total", summaryJson (total results))]

/-- The results as lines.  Several files have a line for their sum. -/
def resultLines (results : List FileResult) : List String :=
  results.filterMap FileResult.line? ++
    if 1 < results.length then [s!"total: {(total results).text}"] else []

namespace Outcome

/-- The lines of the output. -/
def output (json : Bool) (o : Outcome) : List String :=
  match o.results with
  | .error _ => []
  | .ok results => if json then [(resultsJson results).indented] else resultLines results

/-- The errors that are printed. -/
def errors (json : Bool) (o : Outcome) : List String :=
  match o.results with
  | .error e => [e.message]
  | .ok results => if json then [] else results.filterMap FileResult.error?

/-- The lines of the log that are printed. -/
def logLines (options : Options) (o : Outcome) : List String :=
  (o.log.filter (isShown options.verbosity)).map logLine

/-- The lines of the error output. -/
def errorOutput (options : Options) (o : Outcome) : List String :=
  o.logLines options ++ o.errors options.json

/-- Whether the run of a file broke off. -/
def breaksOff (o : Outcome) : Bool :=
  match o.results with
  | .error _ => false
  | .ok results => results.any FileResult.breaksOff

/-- Whether every file was run and no check failed. -/
def succeeds (o : Outcome) : Bool :=
  match o.results with
  | .error _ => false
  | .ok results => results.all (·.result.toBool) && (total results).isSuccess

/-- The command succeeds if every file was run and no check failed. -/
theorem succeeds_ok_iff (log : List LogEntry) (results : List FileResult) :
    (Outcome.mk log (.ok results)).succeeds ↔
      (∀ r ∈ results, ∃ s, r.result = .ok s) ∧ (total results).failed = 0 := by
  have isOk (r : FileResult) : r.result.toBool = true ↔ ∃ s, r.result = .ok s := by
    cases r.result <;> simp [Except.toBool]
  simp [succeeds, Summary.isSuccess, isOk]

end Outcome

/-! ## The whole command -/

/-- What is printed and how the command ends. -/
structure Printed where
  /-- The status of the process. -/
  status : Nat
  output : List String
  errorOutput : List String
deriving DecidableEq, Repr

/-- The description of the command. -/
def helpLines : List String :=
  ["Runs shader conformance tests", "", "Usage: shader-runner [OPTIONS] <FILES>...", "",
   "Arguments:", "  <FILES>...  Test files to run", "", "Options:",
   "      --compile-only           Only compile shaders, without creating a device",
   "      --caps <CAPS>            Capability profile (YAML) overriding what the backend reports",
   "      --dxc <DXC>              Path of the dxc executable used for HLSL [default: dxc]",
   "      --min-model <MIN_MODEL>  Lowest shader model to test (e.g. 4.0)",
   "      --max-model <MAX_MODEL>  Highest shader model to test (e.g. 6.0)",
   "      --json                   Print results as JSON",
   "  -v, --verbose...             Increase log verbosity (-v for debug, -vv for trace)",
   "  -h, --help                   Print help",
   "  -V, --version                Print version"]

/-- The name and version of the command. -/
def versionLine : String := "shader-runner-cli 1.0.0"

/-- The status of a process that breaks off. -/
def brokenStatus : Nat := 101

/-- What comes of options. -/
def printed (options : Options) (o : Outcome) : Printed :=
  if o.breaksOff then ⟨brokenStatus, [], o.logLines options⟩
  else ⟨if o.succeeds then 0 else 1, o.output options.json, o.errorOutput options⟩

/-- What comes of an invocation on a machine. -/
def Machine.invoke {S : Type} (m : Machine S) (start : S) : Invocation → Printed
  | .run options => printed options (m.execute options start)
  | .help => ⟨0, helpLines, []⟩
  | .version => ⟨0, [versionLine], []⟩
  | .misuse cause => ⟨2, [], ["error: " ++ cause.message]⟩

end ShaderConformance.CommandLine
