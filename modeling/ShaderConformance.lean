import ShaderConformance.Block.Basic
import ShaderConformance.Block.Header
import ShaderConformance.Bytes
import ShaderConformance.Capabilities.Basic
import ShaderConformance.Capabilities.Profile
import ShaderConformance.Command.Basic
import ShaderConformance.Command.ProbeReading
import ShaderConformance.Command.Reading
import ShaderConformance.CommandLine.Directory
import ShaderConformance.CommandLine.Execution
import ShaderConformance.CommandLine.Options
import ShaderConformance.CommandLine.Printing
import ShaderConformance.Comparison
import ShaderConformance.Compiler.Basic
import ShaderConformance.Compiler.Scripted
import ShaderConformance.Compiler.Tool
import ShaderConformance.Dialogue
import ShaderConformance.Fault
import ShaderConformance.Floating.Decimal
import ShaderConformance.Floating.Interchange
import ShaderConformance.Floating.Number
import ShaderConformance.Floating.Shortest
import ShaderConformance.Format
import ShaderConformance.Gpu.Backend
import ShaderConformance.Gpu.Binding
import ShaderConformance.Gpu.Call
import ShaderConformance.Gpu.Command
import ShaderConformance.Gpu.Conversion
import ShaderConformance.Gpu.Draw
import ShaderConformance.Gpu.Fault
import ShaderConformance.Gpu.Format
import ShaderConformance.Gpu.Object
import ShaderConformance.Gpu.Opening
import ShaderConformance.Gpu.Pipeline
import ShaderConformance.Gpu.Register
import ShaderConformance.Gpu.Simulated.Contents
import ShaderConformance.Gpu.Simulated.Device
import ShaderConformance.Gpu.Simulated.Formats
import ShaderConformance.Gpu.Subresource
import ShaderConformance.InputElement
import ShaderConformance.Json.Basic
import ShaderConformance.Json.Numbers
import ShaderConformance.Log
import ShaderConformance.Main
import ShaderConformance.Model.Basic
import ShaderConformance.Model.Mask
import ShaderConformance.Model.Variants
import ShaderConformance.Pipeline.State
import ShaderConformance.Probe.Basic
import ShaderConformance.Probe.Readback
import ShaderConformance.Probe.Value
import ShaderConformance.Proofs.AcceptedBlocks
import ShaderConformance.Proofs.Acts
import ShaderConformance.Proofs.Attachments
import ShaderConformance.Proofs.BindGroups
import ShaderConformance.Proofs.BlankRuns
import ShaderConformance.Proofs.BlockCourse
import ShaderConformance.Proofs.Codecs
import ShaderConformance.Proofs.CommandActs
import ShaderConformance.Proofs.CommandReading
import ShaderConformance.Proofs.CompileOnly
import ShaderConformance.Proofs.CopiedResources
import ShaderConformance.Proofs.CreatedResources
import ShaderConformance.Proofs.DecimalText
import ShaderConformance.Proofs.DescriptionParts
import ShaderConformance.Proofs.Dialogue
import ShaderConformance.Proofs.Encodings
import ShaderConformance.Proofs.ExactValues
import ShaderConformance.Proofs.FileActs
import ShaderConformance.Proofs.FirstMismatch
import ShaderConformance.Proofs.Frames
import ShaderConformance.Proofs.Handles
import ShaderConformance.Proofs.HeaderItems
import ShaderConformance.Proofs.HexSources
import ShaderConformance.Proofs.Invariants
import ShaderConformance.Proofs.KeyedTable
import ShaderConformance.Proofs.KeywordLayout
import ShaderConformance.Proofs.LineAccounting
import ShaderConformance.Proofs.LineItems
import ShaderConformance.Proofs.LiveResources
import ShaderConformance.Proofs.Lockstep
import ShaderConformance.Proofs.MipLevels
import ShaderConformance.Proofs.ModelRange
import ShaderConformance.Proofs.Moves
import ShaderConformance.Proofs.NameTables
import ShaderConformance.Proofs.NearestNumbers
import ShaderConformance.Proofs.Numerals
import ShaderConformance.Proofs.Payloads
import ShaderConformance.Proofs.ProbeVerdicts
import ShaderConformance.Proofs.Programs
import ShaderConformance.Proofs.QuadFrame
import ShaderConformance.Proofs.QualifierChains
import ShaderConformance.Proofs.QualifierGrammar
import ShaderConformance.Proofs.QualifierUse
import ShaderConformance.Proofs.ReadableTexels
import ShaderConformance.Proofs.Readiness
import ShaderConformance.Proofs.Reading
import ShaderConformance.Proofs.ReadingProgress
import ShaderConformance.Proofs.RegisterBindings
import ShaderConformance.Proofs.Registry
import ShaderConformance.Proofs.RegistryHistory
import ShaderConformance.Proofs.Rendering
import ShaderConformance.Proofs.Renumbering
import ShaderConformance.Proofs.Reports
import ShaderConformance.Proofs.RepresentableSteps
import ShaderConformance.Proofs.RequiredRange
import ShaderConformance.Proofs.Results
import ShaderConformance.Proofs.SamplerLines
import ShaderConformance.Proofs.SilentLines
import ShaderConformance.Proofs.Skipping
import ShaderConformance.Proofs.SourceBodies
import ShaderConformance.Proofs.SourceFormats
import ShaderConformance.Proofs.StagedReadbacks
import ShaderConformance.Proofs.Step
import ShaderConformance.Proofs.Subresources
import ShaderConformance.Proofs.Suppression
import ShaderConformance.Proofs.TexelAddresses
import ShaderConformance.Proofs.Tolerance
import ShaderConformance.Proofs.UniformProbes
import ShaderConformance.Proofs.UniformWrites
import ShaderConformance.Proofs.Uploads
import ShaderConformance.Proofs.ValueKinds
import ShaderConformance.Proofs.Variants
import ShaderConformance.Proofs.VertexLayouts
import ShaderConformance.Proofs.WidenedNumbers
import ShaderConformance.Proofs.WithoutBackend
import ShaderConformance.Proofs.Words
import ShaderConformance.Qualifier.Basic
import ShaderConformance.Qualifier.Reading
import ShaderConformance.Record.Basic
import ShaderConformance.Record.Graphics
import ShaderConformance.Record.Parts
import ShaderConformance.Record.Pipeline
import ShaderConformance.Record.Request
import ShaderConformance.Registry
import ShaderConformance.Report
import ShaderConformance.Requirements
import ShaderConformance.Resource.Block
import ShaderConformance.Resource.Description
import ShaderConformance.Resource.Kind
import ShaderConformance.Run.Basic
import ShaderConformance.Run.Commands
import ShaderConformance.Run.File
import ShaderConformance.Run.Moment
import ShaderConformance.Run.Request
import ShaderConformance.Run.Resources
import ShaderConformance.Run.Shaders
import ShaderConformance.Sampler.Basic
import ShaderConformance.Sampler.Block
import ShaderConformance.Session
import ShaderConformance.Shader.Basic
import ShaderConformance.Shader.Header
import ShaderConformance.Shader.Hex
import ShaderConformance.Surroundings.Basic
import ShaderConformance.Surroundings.CompileOnly
import ShaderConformance.Surroundings.Compiler
import ShaderConformance.Surroundings.Graphics
import ShaderConformance.Surroundings.Journal
import ShaderConformance.Surroundings.Memory
import ShaderConformance.Surroundings.Storage
import ShaderConformance.Text.Basic
import ShaderConformance.Text.Integer
import ShaderConformance.Text.Keyword
import ShaderConformance.Text.Letter
import ShaderConformance.Text.LetterRanges
import ShaderConformance.Uniforms
import ShaderConformance.Yaml.Cursor
import ShaderConformance.Yaml.Document
import ShaderConformance.Yaml.Mapping
import ShaderConformance.Yaml.Node
import ShaderConformance.Yaml.Scalar
import ShaderConformance.Yaml.Tag
import ShaderConformance.Yaml.Token
