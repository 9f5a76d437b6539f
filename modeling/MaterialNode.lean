import MaterialNode.Main
import MaterialNode.Proofs.Shader.HeaderItem
import MaterialNode.Proofs.Shader.HeaderScan
import MaterialNode.Proofs.Shader.HeaderRoundTrip
import MaterialNode.Proofs.Shader.SampleLine
import MaterialNode.Proofs.SlotRank
import MaterialNode.Proofs.Text.Replace
import MaterialNode.Proofs.Shader.BodyConversion
import MaterialNode.Proofs.Shader.OpacityMask
import MaterialNode.Proofs.Shader.HeaderSplit
import MaterialNode.Proofs.Plan.PinOrder
import MaterialNode.Proofs.Text.Characters
import MaterialNode.Proofs.Text.Pieces
import MaterialNode.Proofs.Code.EmittedLines
import MaterialNode.Proofs.Plan.ForwardedPins
import MaterialNode.Proofs.Text.Fields
import MaterialNode.Proofs.Code.LineTerminators
import MaterialNode.Proofs.Shader.SamplerSlots
import MaterialNode.Proofs.Code.ConvertedWindow
import MaterialNode.Proofs.Text.Braces
import MaterialNode.Proofs.Code.BraceBalance
import MaterialNode.Proofs.Json.RoundTrip
import MaterialNode.Proofs.Plan.SavedPlan
import MaterialNode.Proofs.Files.Resolution
import MaterialNode.Proofs.Files.Changes
import MaterialNode.Proofs.Files.Search
import MaterialNode.Proofs.Batch.Collection
import MaterialNode.Proofs.Batch.Attempts
import MaterialNode.Proofs.Files.KeyedPath
import MaterialNode.Proofs.Batch.Outputs
import MaterialNode.Proofs.Batch.IntactOutputs
import MaterialNode.Proofs.Batch.Accounting
import MaterialNode.Proofs.Yaml.WrittenBlock
import MaterialNode.Proofs.Yaml.WrittenValue
import MaterialNode.Proofs.Yaml.WrittenRecord
import MaterialNode.Proofs.Settings.SavedSettings
import MaterialNode.Proofs.Files.Parent
import MaterialNode.Proofs.Files.Creation
import MaterialNode.Proofs.Files.Steadiness
import MaterialNode.Proofs.Batch.Repetition
import MaterialNode.Proofs.Code.StepRuns
import MaterialNode.Proofs.Shader.HeaderAccount
import MaterialNode.Proofs.Code.ParameterList
import MaterialNode.Proofs.Code.PixelWrapper
import MaterialNode.Proofs.Shader.MainSignature
import MaterialNode.Proofs.Shader.EmittedBody
import MaterialNode.Proofs.Code.BufferBlocks
import MaterialNode.Proofs.Plan.TextureImports
import MaterialNode.Proofs.Shader.ReportLines
import MaterialNode.Proofs.Json.MemberOrder
import MaterialNode.Proofs.Metadata.ReorderedStage
import MaterialNode.Proofs.Number.NearestMillionth
import MaterialNode.Proofs.Shader.RegisterNumber
