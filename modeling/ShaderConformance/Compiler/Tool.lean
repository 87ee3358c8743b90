import ShaderConformance.Dialogue
import ShaderConformance.Shader.Basic

/-!
# What a compiler asks for

The compiler of the graphics backend leaves two things to others: an external tool
compiles and preprocesses one of the languages, and an analysis of the code finds its
entry point and bindings.
-/

namespace ShaderConformance.Compiler

/-- An argument of the tool. -/
inductive Argument where
  | literal (text : String)
  /-- The file with the source. -/
  | input
  /-- The file for the result, whose name has an extension. -/
  | output (extension : String)
deriving DecidableEq, Repr

/-- A run of the tool on a source. -/
structure ToolRun where
  arguments : List Argument
  source : Text
deriving DecidableEq, Repr

/-- How a run of the tool ends. -/
inductive ToolResult where
  /-- There is no such tool. -/
  | missing
  | notStarted (reason : String)
  /-- The tool reports a failure. -/
  | rejected (diagnostics : Text)
  /-- The tool succeeds; its result is read from a file. -/
  | finished (file : String) (result : Except String (List UInt8))

/-- What the analysis of code finds. -/
structure Analysis where
  entryPoint : String
  /-- The bindings of group 0, in order. -/
  bindings : List ShaderBinding
deriving DecidableEq, Repr

/-- A question of the compiler. -/
inductive Question where
  /-- Whether the tool starts. -/
  | starts
  | run (r : ToolRun)
  /-- What the code of a stage uses. -/
  | analyse (code : ShaderCode) (type : ShaderType)

/-- The type of the answers to a question. -/
abbrev Question.Answer : Question → Type
  | starts => Bool
  | run _ => ToolResult
  | analyse _ _ => Except String Analysis

/-- What the compiler does. -/
abbrev Program := Dialogue Question.Answer

/-- Asks a question. -/
def ask (q : Question) : Program q.Answer := Dialogue.question q

end ShaderConformance.Compiler
