import ShaderInterface.Instruction.Basic
import ShaderInterface.Instruction.Cursor
import ShaderInterface.Numbered.Decode

namespace ShaderInterface

/-- Reads operands in order and reports on the way. -/
abbrev Reading := StateT Cursor Traced

namespace Reading

variable {α : Type}

def take (read : Operand α) : Reading α := fun c =>
  match read c with
  | (.ok a, c') => return (a, c')
  | (.error fault, _) => Traced.fail fault

def word : Reading UInt32 := take Operand.word

def flag : Reading Bool := take Operand.flag

def id : Reading UInt32 := take Operand.id

def member : Reading UInt32 := take Operand.member

def ids : Reading (List UInt32) := take Operand.ids

def literals : Reading (List UInt32) := take Operand.literals

def text : Reading String := take Operand.text

def hasRemaining : Reading Bool := return (← get).hasRemaining

def executionModel : Reading ExecutionModel := do
  ExecutionModel.decode (← word).toNat

def storageClass : Reading StorageClass := do
  StorageClass.decode (← word).toNat

def dimension : Reading Dimension := do
  Traced.lift (Dimension.decode (← word).toNat)

def imageFormat : Reading ImageFormat := do
  Traced.lift (ImageFormat.decode (← word).toNat)

/-- The qualifier may be left out. -/
def accessQualifier? : Reading (Option AccessQualifier) := do
  if ← hasRemaining then
    return some (← Traced.lift (AccessQualifier.decode (← word).toNat))
  else return none

/-- A kind, and all words behind it. -/
def decoration : Reading Decoration := do
  let kind ← (do DecorationKind.decode (← word).toNat : Reading DecorationKind)
  return ⟨kind, (← literals).map (·.toNat)⟩

def localSize : Reading LocalSize :=
  return ⟨← word, ← word, ← word⟩

def imageDecl : Reading ImageDecl :=
  return ⟨← id, ← dimension, ← flag, ← flag, ← flag, ← flag, ← imageFormat, ← accessQualifier?⟩

end Reading

open Reading

namespace TypeDecl

def reading? : Opcode → Option (Reading TypeDecl)
  | .opTypeVoid => some (return void)
  | .opTypeBool => some (return bool)
  | .opTypeInt => some (return int (← word) (← flag))
  | .opTypeFloat => some (return float (← word))
  | .opTypeVector => some (return vector (← Reading.id) (← word))
  | .opTypeMatrix => some (return matrix (← Reading.id) (← word))
  | .opTypeImage => some (return image (← imageDecl))
  | .opTypeSampler => some (return sampler)
  | .opTypeSampledImage => some (return sampledImage (← Reading.id))
  | .opTypeArray => some (return array (← Reading.id) (← Reading.id))
  | .opTypeStruct => some (return struct (← ids))
  | .opTypePointer => some (return pointer (← storageClass) (← Reading.id))
  | _ => none

end TypeDecl

namespace Instruction

def localSizeMode : UInt32 := 17

def readEntryPoint : Reading Instruction :=
  return entryPoint ⟨← executionModel, ← Reading.id, ← text, ← ids⟩

def readExecutionMode : Reading Instruction := do
  let function ← Reading.id
  let mode ← word
  if mode = localSizeMode then return localSize function (← Reading.localSize)
  else return otherMode function mode

def readVariable : Reading Instruction := do
  let type ← Reading.id
  let target ← Reading.id
  return declareVariable target ⟨type, ← storageClass, ← ids⟩

def readConstant : Reading Instruction := do
  let type ← Reading.id
  let target ← Reading.id
  return declareConstant target ⟨type, ← literals⟩

/-- How the operands of an instruction are read; most instructions say nothing of interest. -/
def reading? : Opcode → Option (Reading Instruction)
  | .opEntryPoint => some readEntryPoint
  | .opExecutionMode => some readExecutionMode
  | .opName => some (return name (← Reading.id) (← text))
  | .opMemberName => some (return memberName (← Reading.id) (← Reading.member) (← text))
  | .opDecorate => some (return decorate (← Reading.id) (← decoration))
  | .opMemberDecorate =>
    some (return memberDecorate (← Reading.id) (← Reading.member) (← decoration))
  | .opVariable => some readVariable
  | .opConstant | .opConstantComposite => some readConstant
  | opcode =>
    (TypeDecl.reading? opcode).map fun read => return declareType (← Reading.id) (← read)

end Instruction

end ShaderInterface
