import ShaderInterface.Numbered.Basic

namespace ShaderInterface

/-- The instructions that have a spelling in messages. -/
inductive Opcode
  | opNop
  | opName
  | opMemberName
  | opEntryPoint
  | opExecutionMode
  | opTypeVoid
  | opTypeBool
  | opTypeInt
  | opTypeFloat
  | opTypeVector
  | opTypeMatrix
  | opTypeImage
  | opTypeSampler
  | opTypeSampledImage
  | opTypeArray
  | opTypeRuntimeArray
  | opTypeStruct
  | opTypePointer
  | opTypeFunction
  | opConstant
  | opConstantComposite
  | opFunction
  | opVariable
  | opLoad
  | opStore
  | opDecorate
  | opMemberDecorate
  deriving DecidableEq

namespace Opcode

def members : List Opcode :=
  [.opNop, .opName, .opMemberName, .opEntryPoint, .opExecutionMode, .opTypeVoid, .opTypeBool,
   .opTypeInt, .opTypeFloat, .opTypeVector, .opTypeMatrix, .opTypeImage, .opTypeSampler,
   .opTypeSampledImage, .opTypeArray, .opTypeRuntimeArray, .opTypeStruct, .opTypePointer,
   .opTypeFunction, .opConstant, .opConstantComposite, .opFunction, .opVariable, .opLoad,
   .opStore, .opDecorate, .opMemberDecorate]

def code : Opcode → Int
  | opNop => 0
  | opName => 5
  | opMemberName => 6
  | opEntryPoint => 15
  | opExecutionMode => 16
  | opTypeVoid => 19
  | opTypeBool => 20
  | opTypeInt => 21
  | opTypeFloat => 22
  | opTypeVector => 23
  | opTypeMatrix => 24
  | opTypeImage => 25
  | opTypeSampler => 26
  | opTypeSampledImage => 27
  | opTypeArray => 28
  | opTypeRuntimeArray => 29
  | opTypeStruct => 30
  | opTypePointer => 32
  | opTypeFunction => 33
  | opConstant => 43
  | opConstantComposite => 44
  | opFunction => 54
  | opVariable => 59
  | opLoad => 61
  | opStore => 62
  | opDecorate => 71
  | opMemberDecorate => 72

def name : Opcode → String
  | opNop => "OpNop"
  | opName => "OpName"
  | opMemberName => "OpMemberName"
  | opEntryPoint => "OpEntryPoint"
  | opExecutionMode => "OpExecutionMode"
  | opTypeVoid => "OpTypeVoid"
  | opTypeBool => "OpTypeBool"
  | opTypeInt => "OpTypeInt"
  | opTypeFloat => "OpTypeFloat"
  | opTypeVector => "OpTypeVector"
  | opTypeMatrix => "OpTypeMatrix"
  | opTypeImage => "OpTypeImage"
  | opTypeSampler => "OpTypeSampler"
  | opTypeSampledImage => "OpTypeSampledImage"
  | opTypeArray => "OpTypeArray"
  | opTypeRuntimeArray => "OpTypeRuntimeArray"
  | opTypeStruct => "OpTypeStruct"
  | opTypePointer => "OpTypePointer"
  | opTypeFunction => "OpTypeFunction"
  | opConstant => "OpConstant"
  | opConstantComposite => "OpConstantComposite"
  | opFunction => "OpFunction"
  | opVariable => "OpVariable"
  | opLoad => "OpLoad"
  | opStore => "OpStore"
  | opDecorate => "OpDecorate"
  | opMemberDecorate => "OpMemberDecorate"

end Opcode

instance : Numbered Opcode where
  family := "Opcode"
  members := Opcode.members
  code := Opcode.code
  name := Opcode.name
  mem_members a := by cases a <;> decide
  nodup_codes := by decide

/-- The spelling of an instruction number; one without a name shows the number. -/
def Opcode.mnemonic (code : UInt16) : String :=
  match (Numbered.ofCode? code.toNat : Option Opcode) with
  | some opcode => opcode.name
  | none => s!"Op{code}"

end ShaderInterface
