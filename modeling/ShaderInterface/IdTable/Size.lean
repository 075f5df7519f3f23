import ShaderInterface.IdTable.Depth

namespace ShaderInterface.IdTable

/-- A vector of three takes the room of four. -/
def vectorSize : VectorSize → Nat
  | .two => 8
  | .three | .four => 16

/-- Every column takes the room of four components. -/
def matrixSize (columns : VectorSize) : Nat :=
  16 * columns.toNat

/-- Whether each of the ids has a type; looks no further than the first that has none. -/
def allTyped (t : IdTable) : List UInt32 → Except Fault Bool
  | [] => return true
  | id :: rest => do
    if (← t.lookup id.toNat).type?.isSome then t.allTyped rest else return false

/-- The sum of the sizes, up to the first that is unresolved. -/
def totalSize (size : UInt32 → Except Fault (Option Nat)) : List UInt32 → Except Fault (Option Nat)
  | [] => return some 0
  | id :: rest => do
    match ← size id with
    | none => return none
    | some n => return (← totalSize size rest).map (n + ·)

def sizeWithin (t : IdTable) (limit : Int) : (levels : Nat) → TypeDecl → Except Fault (Option Nat)
  | 0, _ => throw (.typesTooDeep limit)
  | n + 1, .array element length => do
    match ← t.sizeWithin limit n (← t.typeOf element.toNat) with
    | none => return none
    | some size => return some ((← t.arrayLength length.toNat).toNat * size)
  | n + 1, .pointer _ target => do
    t.sizeWithin limit n (← t.typeOf target.toNat)
  | n + 1, .struct members => do
    if ← t.allTyped members then
      totalSize (fun id => do t.sizeWithin limit n (← t.typeOf id.toNat)) members
    else return none
  | _ + 1, .matrix _ count =>
    match VectorSize.ofNat? count.toNat with
    | some columns => return some (matrixSize columns)
    | none => throw (.columnCount count)
  | _ + 1, .vector _ count =>
    match VectorSize.ofNat? count.toNat with
    | some components => return some (vectorSize components)
    | none => throw (.componentCount count)
  | _ + 1, type => throw (.needsPadding type)

/-- The bytes of a type in a uniform block; none if a struct in it has a member without a type. -/
def sizeOf (t : IdTable) (limit : Int) (type : TypeDecl) : Except Fault (Option Nat) :=
  t.sizeWithin limit (levels limit) type

end ShaderInterface.IdTable
