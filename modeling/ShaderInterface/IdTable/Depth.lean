import ShaderInterface.IdTable.Basic

namespace ShaderInterface.IdTable

/-- How many nested types a walk may enter when the outermost has depth 0 and `limit` is the
greatest depth allowed. -/
def levels (limit : Int) : Nat :=
  (limit + 1).toNat

/-- The length of an array, from the id of its length: the first value of a constant. -/
def arrayLength (t : IdTable) (length : Int) : Except Fault UInt32 := do
  match (← t.constantOf length).values with
  | first :: _ => return first
  | [] => throw .noValue

end ShaderInterface.IdTable
