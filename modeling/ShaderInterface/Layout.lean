namespace ShaderInterface

inductive ScalarLayout
  | bool
  | int8
  | int16
  | int32
  | int64
  | uint8
  | uint16
  | uint32
  | uint64
  | float16
  | float32
  | float64
  deriving DecidableEq

namespace ScalarLayout

def size : ScalarLayout → Nat
  | bool | int8 | uint8 => 1
  | int16 | uint16 | float16 => 2
  | int32 | uint32 | float32 => 4
  | int64 | uint64 | float64 => 8

/-- Byte order mark, kind letter and size; a single byte has no order. -/
def code : ScalarLayout → String
  | bool => "|b1"
  | int8 => "|i1"
  | uint8 => "|u1"
  | int16 => "<i2"
  | uint16 => "<u2"
  | int32 => "<i4"
  | uint32 => "<u4"
  | int64 => "<i8"
  | uint64 => "<u8"
  | float16 => "<f2"
  | float32 => "<f4"
  | float64 => "<f8"

end ScalarLayout

/-- How values lie in memory: a scalar, or a block of equal elements. -/
inductive Layout
  | scalar (type : ScalarLayout)
  | block (element : Layout) (shape : List Nat)
  deriving DecidableEq

namespace Layout

/-- The elements of a block; a scalar is its own. -/
def element : Layout → Layout
  | scalar t => scalar t
  | block e _ => e

def shape : Layout → List Nat
  | scalar _ => []
  | block _ s => s

def size : Layout → Nat
  | scalar t => t.size
  | block e s => s.foldr (· * ·) e.size

def maxDimensions : Nat := 64

/-- Bounds every length and every total size. -/
def maxExtent : Nat := 0x7FFFFFFF

/-- The greatest number to which elements are counted. -/
def maxCount : Nat := 0x7FFFFFFFFFFFFFFF

/-- The elements of a shape, counted from the outermost length on up to a length of zero. -/
def countedElements (lengths : List Nat) : Nat :=
  (lengths.takeWhile (· != 0)).foldr (· * ·) 1

/-- A block within the limits. Its elements must take room, and counting them must not overflow,
even if a zero further in makes the block empty. -/
def block? (e : Layout) (shape : List Int) : Option Layout :=
  let lengths := shape.map Int.toNat
  if e.size ≠ 0 ∧ shape.length ≤ maxDimensions ∧ (∀ n ∈ shape, 0 ≤ n ∧ n ≤ maxExtent)
      ∧ countedElements lengths ≤ maxCount ∧ (block e lengths).size ≤ maxExtent then
    some (block e lengths)
  else none

/-- One level more of `n` elements each like `inner`, whose own lengths follow `n`. -/
def repeat? (n : Int) (inner : Layout) : Option Layout :=
  block? inner.element (n :: inner.shape.map Int.ofNat)

end Layout

end ShaderInterface
