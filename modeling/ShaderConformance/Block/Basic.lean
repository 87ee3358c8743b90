import ShaderConformance.Block.Header
import ShaderConformance.Requirements
import ShaderConformance.Resource.Block
import ShaderConformance.Sampler.Block

/-!
# Blocks

A test file is a sequence of blocks.  Most collect something until they end.
-/

namespace ShaderConformance

/-- The open block and what it has collected. -/
inductive Block where
  | none
  | inputLayout
  | preproc (refused : Bool) (text : Text)
  | require (block : RequireBlock)
  | resource (block : ResourceBlock)
  | sampler (sampler : SamplerDesc)
  | shader (header : ShaderHeader) (text : Text)
  | test

namespace Block

/-- The name of a kind of block in logs. -/
def kind : Block → String
  | none => "None"
  | inputLayout => "InputLayout"
  | preproc false _ => "Preproc"
  | preproc true _ => "PreprocInvalid"
  | require _ => "Require"
  | resource _ => "Resource"
  | sampler _ => "Sampler"
  | shader _ _ => "Shader"
  | test => "Test"

/-- The block with a line more of source, if it collects source. -/
def collect? (b : Block) (line : Text) : Option Block :=
  match b with
  | preproc refused text => some (preproc refused (text ++ line ++ ['\n']))
  | shader header text => some (shader header (text ++ line ++ ['\n']))
  | _ => Option.none

/-- The block that a header opens. -/
def ofHeader : BlockHeader → Block
  | .require => require .fresh
  | .test => test
  | .preproc refused => preproc refused []
  | .inputLayout => inputLayout
  | .shader header => shader header []
  | .resource ref => resource (.fresh ref.type ref.slot)
  | .sampler slot => sampler (.fresh slot)

end Block

end ShaderConformance
