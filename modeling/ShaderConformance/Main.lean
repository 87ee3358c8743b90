import ShaderConformance.CommandLine.Directory
import ShaderConformance.CommandLine.Printing

/-!
# The command

Reads the files that the arguments name, and prints what comes of them.  No external
compiler is started and no graphics device is looked for.
-/

open ShaderConformance

/-- The wording of a failure to read a file. -/
def readFailure : IO.Error → String
  | .noFileOrDirectory _ _ _ => CommandLine.noSuchFile
  | .permissionDenied _ _ _ => "Permission denied (os error 13)"
  | e => toString e

/-- Reads the text of a file. -/
def readText (path : String) : IO (Except String Text) := do
  match ← (IO.FS.readBinFile path).toBaseIO with
  | .error e => return .error (readFailure e)
  | .ok bytes =>
    match String.fromUTF8? bytes with
    | some text => return .ok text.toList
    | none => return .error "stream did not contain valid UTF-8"

/-- The files that an invocation reads. -/
def filesOf : CommandLine.Invocation → List String
  | .run o => o.profile?.toList ++ o.files
  | _ => []

/-- A device that is not there. -/
def noDevice : Gpu.Simulated.Script :=
  ⟨none, false, fun _ => false, fun _ => false, fun _ => false, fun _ => false⟩

def main (arguments : List String) : IO UInt32 := do
  let invocation := CommandLine.Invocation.ofArguments arguments
  let table ← (filesOf invocation).mapM fun path => do return (path, ← readText path)
  let read (path : String) := (table.lookup path).getD (.error CommandLine.noSuchFile)
  let machine := CommandLine.Machine.simulated read noDevice
  let printed := machine.invoke .fresh invocation
  for line in printed.errorOutput do IO.eprintln line
  for line in printed.output do IO.println line
  return printed.status.toUInt32
