import ShaderInterface.IdTable.Depth
import ShaderInterface.ShaderType.Basic

namespace ShaderInterface

/-- The kind of a scalar type. Narrow floats count as `float`, integers of any width as `int` or
`uint`. -/
def TypeDecl.scalarKind : TypeDecl → Except Fault ScalarKind
  | bool => return .bool
  | float width =>
    if width = 16 ∨ width = 32 then return .float
    else if width = 64 then return .double
    else throw (.floatWidth width)
  | int _ signed => return if signed then .int else .uint
  | type => throw (.unsupportedType type)

namespace IdTable

def imageType (i : ImageDecl) : Except Fault BaseType :=
  match ImageShape.ofImage? i.dimension i.arrayed i.multisampled with
  | some shape => return .image shape
  | none => throw (.unsupportedImage (.image i))

def samplerType : TypeDecl → Except Fault BaseType
  | .image i =>
    let shape? := ImageShape.ofImage? i.dimension i.arrayed i.multisampled
    match i.sampled, shape?.bind (BaseType.sampler? i.depth) with
    | true, some type => return type
    | _, _ => throw (.unsupportedSampledImage (.image i))
  | type => throw (.unsupportedSampledImage type)

def vectorType (component : TypeDecl) (count : UInt32) : Except Fault BaseType := do
  let kind ← component.scalarKind
  match VectorSize.ofNat? count.toNat with
  | some size => return .vector kind size
  | none => throw (.unsupportedVector kind count)

def shaderTypeWithin (t : IdTable) (limit : Int) :
    (levels : Nat) → TypeDecl → Except Fault ShaderType
  | 0, _ => throw (.typesTooDeep limit)
  | n + 1, .array element length => do
    let inner ← t.shaderTypeWithin limit n (← t.typeOf element.toNat)
    return .array inner (← t.arrayLength length.toNat).toNat
  | n + 1, .pointer _ target => do
    t.shaderTypeWithin limit n (← t.typeOf target.toNat)
  | _ + 1, .image i => return .base (← imageType i)
  | _ + 1, .sampledImage id => return .base (← samplerType (← t.typeOf id.toNat))
  | _ + 1, .sampler => throw .separateSampler
  | _ + 1, .vector component count =>
    return .base (← vectorType (← t.typeOf component.toNat) count)
  | _ + 1, type => return .base (.scalar (← type.scalarKind))

/-- The type as the shading language names it. Pointers leave no trace. -/
def shaderTypeOf (t : IdTable) (limit : Int) (type : TypeDecl) : Except Fault ShaderType :=
  t.shaderTypeWithin limit (levels limit) type

end IdTable

end ShaderInterface
