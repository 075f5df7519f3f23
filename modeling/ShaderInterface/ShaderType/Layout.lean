import ShaderInterface.Fault
import ShaderInterface.Layout
import ShaderInterface.ShaderType.Basic

namespace ShaderInterface

def ScalarKind.layout : ScalarKind → ScalarLayout
  | bool => .bool
  | int => .int32
  | uint => .uint32
  | float => .float32
  | double => .float64

def BaseType.layout (t : BaseType) : Except Fault Layout :=
  match t with
  | scalar kind => return .scalar kind.layout
  | vector kind size => return .block (.scalar kind.layout) [size.toNat]
  | _ => throw (.opaqueLayout t)

/-- The type in memory: one block over a scalar, with the lengths outermost first. -/
def ShaderType.layout : ShaderType → Except Fault Layout
  | base t => t.layout
  | array element n => do
    match (← element.layout).repeat? n with
    | some layout => return layout
    | none => throw .layoutTooLarge

end ShaderInterface
