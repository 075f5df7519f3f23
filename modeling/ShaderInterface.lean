import ShaderInterface.Word
import ShaderInterface.Text.Utf8
import ShaderInterface.Numbered.ExecutionModel
import ShaderInterface.Numbered.StorageClass
import ShaderInterface.Numbered.DecorationKind
import ShaderInterface.Numbered.Dimension
import ShaderInterface.Numbered.ImageFormat
import ShaderInterface.Numbered.AccessQualifier
import ShaderInterface.Numbered.Opcode
import ShaderInterface.TypeDecl
import ShaderInterface.ShaderType.Basic
import ShaderInterface.Layout
import ShaderInterface.Decoration
import ShaderInterface.Fault
import ShaderInterface.Event
import ShaderInterface.Traced
import ShaderInterface.ModuleData
import ShaderInterface.Module.Decode
import ShaderInterface.ShaderType.Layout
import ShaderInterface.Interface.InputLayout
import ShaderInterface.Interface.Reflection
import ShaderInterface.IdTable.Annotate
import ShaderInterface.CommandLine.Run
import ShaderInterface.Main
import ShaderInterface.Proofs.WordBytes
import ShaderInterface.Proofs.Utf8
import ShaderInterface.Proofs.PackedText
import ShaderInterface.Proofs.TextOperand
import ShaderInterface.Proofs.OperandRuns
import ShaderInterface.Proofs.Spelling
import ShaderInterface.Proofs.Reads
import ShaderInterface.Proofs.Frames
import ShaderInterface.Proofs.Program
import ShaderInterface.Proofs.HeaderOrder
import ShaderInterface.Proofs.ByteOrder
import ShaderInterface.Proofs.Assembly
import ShaderInterface.Proofs.AssemblyRoundTrip
import ShaderInterface.Proofs.BigEndianFlag
import ShaderInterface.Proofs.ByteOrderInvariance
import ShaderInterface.Proofs.Framing
import ShaderInterface.Proofs.DecodeFraming
import ShaderInterface.Proofs.Yields
import ShaderInterface.Proofs.InstructionStream
import ShaderInterface.Proofs.Projection
import ShaderInterface.Proofs.TableProjection
import ShaderInterface.Proofs.Settles
import ShaderInterface.Proofs.ComposedReadings
import ShaderInterface.Proofs.ReadingFaults
import ShaderInterface.Proofs.ReadingReports
import ShaderInterface.Proofs.ReferenceClosure
import ShaderInterface.Proofs.TypeWalks
import ShaderInterface.Proofs.Scans
import ShaderInterface.Proofs.DecodedTable
import ShaderInterface.Proofs.FaultTaxonomy
import ShaderInterface.Proofs.UnhandledInstructions
import ShaderInterface.Proofs.InstructionOrder
import ShaderInterface.Proofs.SpokenFrames
import ShaderInterface.Proofs.DefaultEntryPoint
import ShaderInterface.Proofs.DepthLimit
import ShaderInterface.Proofs.CollectedAnswers
import ShaderInterface.Proofs.ScanContents
import ShaderInterface.Proofs.DescriptorSets
import ShaderInterface.Proofs.LayoutAgreement
import ShaderInterface.Proofs.TypeGraph
import ShaderInterface.Proofs.GroundTypes
import ShaderInterface.Proofs.ExactSize
import ShaderInterface.Proofs.ShaderTypeChain
import ShaderInterface.Proofs.LengthConstant
import ShaderInterface.Proofs.Correspondence
import ShaderInterface.Proofs.MirroredScans
import ShaderInterface.Proofs.RecordPacking
import ShaderInterface.Proofs.InputRecord
import ShaderInterface.Proofs.Renumbering
import ShaderInterface.Proofs.TableExtension
import ShaderInterface.Proofs.RaisedBound
import ShaderInterface.Proofs.Redefinitions
import ShaderInterface.Proofs.Annotations
import ShaderInterface.Proofs.PaddedSize
import ShaderInterface.Proofs.ByteLoading
import ShaderInterface.Proofs.FlattenedLayout
import ShaderInterface.Proofs.TypeText
import ShaderInterface.Proofs.ChainSize
