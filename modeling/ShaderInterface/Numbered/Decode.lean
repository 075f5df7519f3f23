import ShaderInterface.Traced

namespace ShaderInterface

namespace Numbered

variable {α : Type} [Numbered α]

/-- An unknown code is reported and read as `unknown`. -/
def decodeOpen (numbering : OpenNumbering) (unknown : α) (n : Int) : Traced α :=
  match ofCode? n with
  | some a => return a
  | none => do
    Traced.report [.unknownCode numbering n]
    return unknown

def decodeClosed (numbering : ClosedNumbering) (n : Int) : Except Fault α :=
  match ofCode? n with
  | some a => .ok a
  | none => .error (.unsupportedCode numbering n)

end Numbered

def ExecutionModel.decode : Int → Traced ExecutionModel :=
  Numbered.decodeOpen .executionModel .unknown

def StorageClass.decode : Int → Traced StorageClass :=
  Numbered.decodeOpen .storageClass .unknown

def DecorationKind.decode : Int → Traced DecorationKind :=
  Numbered.decodeOpen .decorationKind .unknown

def Dimension.decode : Int → Except Fault Dimension :=
  Numbered.decodeClosed .dimension

def ImageFormat.decode : Int → Except Fault ImageFormat :=
  Numbered.decodeClosed .imageFormat

def AccessQualifier.decode : Int → Except Fault AccessQualifier :=
  Numbered.decodeClosed .accessQualifier

end ShaderInterface
