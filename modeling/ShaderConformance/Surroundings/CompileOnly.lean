import ShaderConformance.Surroundings.Basic
import ShaderConformance.Surroundings.Compiler

/-!
# A backend that only has capabilities

For runs that compile shaders and execute nothing.
-/

namespace ShaderConformance.CompileOnly

/-- The answers of the backend, which creates no resource and can do nothing; the
    compiler and the log are given. -/
def surroundings {S : Type}
    (compile : ShaderSource → ShaderType → ShaderModel → CompileOptions →
      S → Except CompileError CompiledShader × S)
    (preprocess : Text → S → Except CompileError Text × S)
    (log : LogEntry → S → S) : Surroundings S Unit :=
  fun q s =>
    match q with
    | .create _ _ =>
      (.error (.unsupported "resources are not created when only compiling"), s)
    | .destroy _ => ((), s)
    | .clear _ _ => (false, s)
    | .draw _ _ _ _ => (false, s)
    | .dispatch _ _ _ _ => (false, s)
    | .copy _ _ => (false, s)
    | .readback _ _ => (.ok none, s)
    | .compile source type model options => compile source type model options s
    | .preprocess text => preprocess text s
    | .log entry => ((), log entry s)

/-- The backend with a scripted compiler; the log is not kept. -/
def scripted (compiler : CompilerScript) : Surroundings Unit Unit :=
  surroundings (fun source type model _ s => (compiler.compile source type model, s))
    (fun text s => (compiler.preprocess text, s)) (fun _ s => s)

end ShaderConformance.CompileOnly
