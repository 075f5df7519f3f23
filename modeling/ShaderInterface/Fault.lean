import ShaderInterface.Word
import ShaderInterface.Numbered.DecorationKind
import ShaderInterface.Numbered.Opcode
import ShaderInterface.ShaderType.Base
import ShaderInterface.TypeDecl

namespace ShaderInterface

/-- The numberings in which every code has to be known. -/
inductive ClosedNumbering
  | dimension
  | imageFormat
  | accessQualifier
  deriving DecidableEq

def ClosedNumbering.title : ClosedNumbering → String
  | dimension => "image dimensionality"
  | imageFormat => "image format"
  | accessQualifier => "access qualifier"

/-- Why a module, a type or a request is refused. -/
inductive Fault
  | unknownByteOrder (name : String)
  | wordOutOfRange (value : Int)
  | partialWord (bytes : Nat)
  | missingHeader (words : Nat)
  | badMagic (word : UInt32)
  | emptyInstruction (index : Nat)
  | instructionOverrun (index count : Nat)
  | noOpcode
  | noMember (index : Int)
  | noValue
  | missingOperand (opcode : UInt16)
  | idOperandOutOfBounds (opcode : UInt16) (id : UInt32) (bound : Int)
  | memberOperandOutOfRange (opcode : UInt16) (member : UInt32)
  | unsupportedCode (numbering : ClosedNumbering) (code : Int)
  | idOutOfBounds (id : Int) (size : Nat)
  | notAType (id : Int)
  | notAConstant (id : Int)
  | valueMissing (kind : DecorationKind)
  | notAPointer (id : Nat)
  | notAStruct (id : Nat) (type : TypeDecl)
  | unresolvedBlock (id : UInt32) (name? : Option String)
  | columnCount (count : UInt32)
  | componentCount (count : UInt32)
  | needsPadding (type : TypeDecl)
  | floatWidth (width : UInt32)
  | intWidth (width : UInt32)
  | unsupportedVector (component : ScalarKind) (count : UInt32)
  | unsupportedImage (type : TypeDecl)
  | unsupportedSampledImage (type : TypeDecl)
  | separateSampler
  | unsupportedType (type : TypeDecl)
  | noLayout (type : TypeDecl)
  | opaqueLayout (type : BaseType)
  | notADescriptor (type : BaseType)
  | typesTooDeep (limit : Int)
  | layoutTooLarge
  | offsetTooLarge
  | alignedNotAFlag
  | offsetsNotNumbers
  | namesNotTexts
  deriving DecidableEq

namespace Fault

/-- What kind of refusal a fault is. The first five concern the module, the others the request. -/
inductive Category
  | malformed
  | unsupportedFeature
  | unsupportedType
  | unresolvedSize
  | recursion
  | byteOrder
  | wordRange
  | noElement
  | layout
  | layoutForm
  deriving DecidableEq

def category : Fault → Category
  | unknownByteOrder _ => .byteOrder
  | wordOutOfRange _ => .wordRange
  | noOpcode | noMember _ | noValue => .noElement
  | layoutTooLarge | offsetTooLarge | alignedNotAFlag | namesNotTexts => .layout
  | offsetsNotNumbers => .layoutForm
  | partialWord _ | missingHeader _ | badMagic _ | emptyInstruction _ | instructionOverrun _ _
  | missingOperand _ | idOperandOutOfBounds _ _ _ | memberOperandOutOfRange _ _
  | idOutOfBounds _ _ | notAType _ | notAConstant _ | valueMissing _ | notAPointer _ => .malformed
  | unsupportedCode _ _ => .unsupportedFeature
  | unresolvedBlock _ _ => .unresolvedSize
  | typesTooDeep _ => .recursion
  | notAStruct _ _ | columnCount _ | componentCount _ | needsPadding _ | floatWidth _ | intWidth _
  | unsupportedVector _ _ | unsupportedImage _ | unsupportedSampledImage _ | separateSampler
  | unsupportedType _ | noLayout _ | opaqueLayout _ | notADescriptor _ => .unsupportedType

/-- Whether the fault says something about the module, not about how it was handed over. -/
def concernsModule (f : Fault) : Bool :=
  match f.category with
  | .malformed | .unsupportedFeature | .unsupportedType | .unresolvedSize | .recursion => true
  | .byteOrder | .wordRange | .noElement | .layout | .layoutForm => false

/-- A name that is absent or empty shows as `fallback`. -/
def nameOr (fallback : String) : Option String → String
  | some "" | none => fallback
  | some name => name

def message : Fault → String
  | unknownByteOrder name => s!"Unknown byte order: {name}"
  | wordOutOfRange value => s!"Word {value} does not fit into 32 bits"
  | partialWord bytes => s!"Module size {bytes} is not a multiple of 4 bytes"
  | missingHeader words => s!"Module too short for header ({words} words)"
  | badMagic word => s!"Invalid magic number {Word.hex word}"
  | emptyInstruction index => s!"Instruction at word {index} has a word count of 0"
  | instructionOverrun index count =>
    s!"Instruction at word {index} runs past the end of the module ({count} words)"
  | noOpcode => "Instruction without words"
  | noMember index => s!"No member at index {index}"
  | noValue => "Constant without a first value"
  | missingOperand opcode => s!"{Opcode.mnemonic opcode}: operand read past end of instruction"
  | idOperandOutOfBounds opcode id bound =>
    s!"{Opcode.mnemonic opcode}: id {id} out of bounds ({bound})"
  | memberOperandOutOfRange opcode member =>
    s!"{Opcode.mnemonic opcode}: member index {member} out of range"
  | unsupportedCode numbering code => s!"Unsupported {numbering.title}: {code}"
  | idOutOfBounds id size => s!"Id {id} out of bounds ({size})"
  | notAType id => s!"Id {id} is not a type"
  | notAConstant id => s!"Id {id} is not a constant"
  | valueMissing kind => s!"{kind.name} decoration without a value"
  | notAPointer id => s!"Variable {id} does not have a pointer type"
  | notAStruct id type => s!"Uniform block {id} is not a struct: {type.describe}"
  | unresolvedBlock id name? =>
    "Uniform block " ++ nameOr "<unnamed>" name?
      ++ s!" (id {id}) references an unresolved member type"
  | columnCount count => s!"Matrix must have 2, 3 or 4 columns, got {count}"
  | componentCount count => s!"Vector must have 2, 3 or 4 components, got {count}"
  | needsPadding type => s!"Size inference requires padding to vec4, got {type.describe}"
  | floatWidth width => s!"Unsupported float width: {width}"
  | intWidth width => s!"Unsupported int width: {width}"
  | unsupportedVector component count => s!"Unsupported vector type: {component.name} x {count}"
  | unsupportedImage type => s!"Unsupported image type: {type.describe}"
  | unsupportedSampledImage type => s!"Unsupported sampled image type: {type.describe}"
  | separateSampler =>
    "Separate sampler objects are not supported, only combined image samplers"
  | unsupportedType type => s!"Unsupported type: {type.describe}"
  | noLayout type => s!"No dtype for type: {type.describe}"
  | opaqueLayout type => s!"No dtype for opaque type: {type.name}"
  | notADescriptor type => s!"Not a descriptor type: {type.name}"
  | typesTooDeep limit => s!"Type graph deeper than {limit} levels (cyclic type?)"
  | layoutTooLarge => "Layout exceeds the limits on dimensions, lengths or size"
  | offsetTooLarge => "A field lies behind the greatest offset of a layout"
  | alignedNotAFlag => "The aligned entry of a layout must be a flag"
  | offsetsNotNumbers => "The offsets of a layout must be numbers"
  | namesNotTexts => "The names of a layout must be texts"

end Fault

end ShaderInterface
