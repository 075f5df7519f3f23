import ShaderInterface.IdTable.Depth
import ShaderInterface.Layout

namespace ShaderInterface

def Layout.orFault : Option Layout → Except Fault Layout
  | some layout => return layout
  | none => throw .layoutTooLarge

namespace IdTable

def floatLayout (width : UInt32) : Except Fault ScalarLayout :=
  if width = 16 then return .float16
  else if width = 32 then return .float32
  else if width = 64 then return .float64
  else throw (.floatWidth width)

def intLayout (width : UInt32) (signed : Bool) : Except Fault ScalarLayout :=
  if width = 8 then return if signed then .int8 else .uint8
  else if width = 16 then return if signed then .int16 else .uint16
  else if width = 32 then return if signed then .int32 else .uint32
  else if width = 64 then return if signed then .int64 else .uint64
  else throw (.intWidth width)

def layoutWithin (t : IdTable) (limit : Int) : (levels : Nat) → TypeDecl → Except Fault Layout
  | 0, _ => throw (.typesTooDeep limit)
  | n + 1, .array element length => do
    let inner ← t.layoutWithin limit n (← t.typeOf element.toNat)
    Layout.orFault (inner.repeat? (← t.arrayLength length.toNat).toNat)
  | n + 1, .pointer _ target => do
    t.layoutWithin limit n (← t.typeOf target.toNat)
  | n + 1, .matrix column count => do
    let inner ← t.layoutWithin limit n (← t.typeOf column.toNat)
    Layout.orFault (inner.repeat? count.toNat)
  | n + 1, .vector component count => do
    let inner ← t.layoutWithin limit n (← t.typeOf component.toNat)
    Layout.orFault (Layout.block? inner [(count.toNat : Int)])
  | _ + 1, .bool => return .scalar .bool
  | _ + 1, .float width => return .scalar (← floatLayout width)
  | _ + 1, .int width signed => return .scalar (← intLayout width signed)
  | _ + 1, type => throw (.noLayout type)

/-- The type in memory with its declared widths. Arrays and matrices put their length before the
lengths of their elements; a vector keeps its components whole. -/
def layoutOf (t : IdTable) (limit : Int) (type : TypeDecl) : Except Fault Layout :=
  t.layoutWithin limit (levels limit) type

end IdTable

end ShaderInterface
