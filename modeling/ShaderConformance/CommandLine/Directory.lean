import ShaderConformance.CommandLine.Execution
import ShaderConformance.Gpu.Simulated.Device

/-!
# A directory of files, and a machine that works with one

The machine has no external compiler, and a simulated graphics device or none.
-/

namespace ShaderConformance.CommandLine

/-- The files of a directory, by their names. -/
abbrev Directory := List (String × Text)

/-- Why a path leads nowhere. -/
def noSuchFile : String := "No such file or directory (os error 2)"

/-- Why the directory itself is not read. -/
def isDirectory : String := "Is a directory (os error 21)"

/-- The name of what a path in the directory leads to. -/
def plainPath (path : String) : String :=
  let steps := (Text.splitAt '/' path.toList).map String.ofList
  "/".intercalate (steps.filter fun step => step ≠ "" && step ≠ ".")

/-- The text that a path leads to, or why it cannot be read. -/
def Directory.read (d : Directory) (path : String) : Except String Text :=
  if path.toList.head? = some '/' then .error noSuchFile
  else if plainPath path = "" then .error isDirectory
  else
    match d.lookup (plainPath path) with
    | some text => .ok text
    | none => .error noSuchFile

/-- The answers where there is no external compiler.  No code is analysed. -/
def noTool : (q : Compiler.Question) → q.Answer
  | .starts => false
  | .run _ => .missing
  | .analyse _ _ => .error "code is not analysed"

/-- A machine without an external compiler, on which a device follows a script. -/
def Machine.simulated (read : String → Except String Text) (script : Gpu.Simulated.Script) :
    Machine Gpu.Simulated.State where
  read := read
  tool _ := noTool
  device := Gpu.Simulated.answer script
  formats := Gpu.Simulated.formats

end ShaderConformance.CommandLine
