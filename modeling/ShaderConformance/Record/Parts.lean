import ShaderConformance.Block.Header
import ShaderConformance.Capabilities.Profile
import ShaderConformance.Command.Reading
import ShaderConformance.Compiler.Tool
import ShaderConformance.Record.Pipeline
import ShaderConformance.Requirements
import ShaderConformance.Session

/-!
# Records of headers, test lines, requirements and profiles
-/

namespace ShaderConformance

def BlockHeader.toJson (h : BlockHeader) : Json :=
  let block (name : String) (rest : List (String × Json)) : Json :=
    .object (("block", .str name) :: rest)
  match h with
  | require => block "require" []
  | test => block "test" []
  | preproc false => block "preproc" []
  | preproc true => block "preproc fail" []
  | inputLayout => block "input layout" []
  | shader h => block "shader" [("header", h.toJson)]
  | resource r => block "resource" [("type", r.type.toJson), ("slot", .ofWord r.slot)]
  | sampler slot => block "sampler" [("slot", .ofWord slot)]

def TestLine.toJson (t : TestLine) : Json :=
  .object [("todo", .bool t.todo), ("bug", .bool t.bug), ("command", t.command.toJson)]

def Outcome.toJson : Outcome → Json
  | pass => .str "Pass"
  | todo => .str "Todo"
  | bug => .str "Bug"
  | fail => .str "Fail"

/-- The evaluation of requirements after a line, which may have been refused. -/
def RequireBlock.toJson (b : RequireBlock) (caps : Capabilities) (fault : Option Fault) : Json :=
  let r := b.evaluate caps
  .object [("error", .ofOption (fun f => .str f.message) fault), ("min", r.minimumModel.toJson),
    ("max", .ofOption ShaderModel.toJson r.maximumModel),
    ("options", .ofList (fun o => .str o.name) r.options.toList),
    ("unmet", .ofList Json.str r.unmet), ("skip", .ofOption Json.str r.skipReason?)]

/-- A stage as seen at a model. -/
def Stage.toJson (s : Stage) (model : ShaderModel) : Json := .list
  [.ofOption (fun source => .ofText source.text) s.source,
   .ofOption ShaderModel.toJson s.compiledAt, .bool s.failed, .bool (s.isStale model),
   .bool s.compiled.isSome]

/-- An argument of a tool, with stand-ins for the names of files. -/
def Compiler.Argument.toJson : Compiler.Argument → Json
  | literal text => .str text
  | input => .str "IN.hlsl"
  | output extension => .str ("OUT." ++ extension)

def CapabilityProfile.toJson (p : CapabilityProfile) : Json :=
  let names {T : Type} (name : T → String) : Option (List T) → Json :=
    .ofOption (.ofList fun v => .str (name v))
  .object
    [("runner", .ofOption .str p.runner), ("tags", names id p.tags),
     ("minimum_model", .ofOption ShaderModel.toJson p.minimumModel),
     ("maximum_model", .ofOption ShaderModel.toJson p.maximumModel),
     ("caps", names Feature.name p.features),
     ("uav_load_formats", names Format.name p.uavLoadFormats),
     ("source_formats", names SourceFormat.name p.sourceFormats)]

end ShaderConformance
