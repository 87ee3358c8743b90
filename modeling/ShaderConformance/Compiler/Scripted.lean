import ShaderConformance.Compiler.Tool
import ShaderConformance.Text.Basic

/-!
# A scripted tool

It ends as its script says, prints the source that it was given, and keeps how it was
run.  No code is analysed.
-/

namespace ShaderConformance.Compiler

/-- What a tool does. -/
structure ToolScript where
  /-- Whether the tool can be started at all. -/
  startable : Bool
  /-- Whether it succeeds when it is asked for its version. -/
  hasVersion : Bool
  /-- Whether it succeeds on sources. -/
  succeeds : Bool
  /-- What it writes, if anything. -/
  output : Option (List UInt8)

/-- The file that the results of a tool are read from. -/
def resultFile (r : ToolRun) : String :=
  match r.arguments.findSome? fun | .output extension => some extension | _ => none with
  | some extension => "OUT." ++ extension
  | none => "OUT"

/-- How a tool ends. -/
def ToolScript.result (script : ToolScript) (r : ToolRun) : ToolResult :=
  if ¬ script.succeeds then .rejected ("  diagnostics for:\n".toList ++ r.source)
  else .finished (resultFile r) <| match script.output with
    | some bytes => .ok bytes
    | none => .error "No such file or directory (os error 2)"

/-- The answers with a tool, or without one; the runs are kept, the last one first. -/
def scriptedAnswer (tool : Option ToolScript) :
    (q : Question) → List ToolRun → q.Answer × List ToolRun
  | .starts, runs => (tool.any fun t => t.startable && t.hasVersion, runs)
  | .run r, runs =>
    match tool with
    | none => (.missing, runs)
    | some t =>
      if t.startable then (t.result r, r :: runs)
      else (.notStarted "Permission denied (os error 13)", runs)
  | .analyse _ _, runs => (.error "code is not analysed", runs)

end ShaderConformance.Compiler
