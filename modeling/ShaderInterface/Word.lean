namespace ShaderInterface

inductive ByteOrder
  | little
  | big
  deriving DecidableEq

namespace ByteOrder

def name : ByteOrder → String
  | little => "little"
  | big => "big"

def ofName? (text : String) : Option ByteOrder :=
  [little, big].find? (·.name == text)

end ByteOrder

namespace Word

/-- The four bytes of a word, lowest first. -/
def bytes (w : UInt32) : List UInt8 :=
  [w.toUInt8, (w >>> 8).toUInt8, (w >>> 16).toUInt8, (w >>> 24).toUInt8]

def ofBytes (a b c d : UInt8) : UInt32 :=
  a.toUInt32 + 0x100 * b.toUInt32 + 0x10000 * c.toUInt32 + 0x1000000 * d.toUInt32

def swap (w : UInt32) : UInt32 :=
  ofBytes (w >>> 24).toUInt8 (w >>> 16).toUInt8 (w >>> 8).toUInt8 w.toUInt8

/-- The word that four bytes spell in a byte order, in reading order. -/
def read : ByteOrder → UInt8 → UInt8 → UInt8 → UInt8 → UInt32
  | .little, a, b, c, d => ofBytes a b c d
  | .big, a, b, c, d => ofBytes d c b a

def write : ByteOrder → UInt32 → List UInt8
  | .little, w => bytes w
  | .big, w => (bytes w).reverse

/-- The words of a byte string; up to three bytes at its end spell none. -/
def readAll (order : ByteOrder) : List UInt8 → List UInt32
  | a :: b :: c :: d :: rest => read order a b c d :: readAll order rest
  | _ => []

def writeAll (order : ByteOrder) (words : List UInt32) : List UInt8 :=
  words.flatMap (write order)

/-- The word of a number in range. -/
def ofInt? (n : Int) : Option UInt32 :=
  if 0 ≤ n ∧ n < 0x100000000 then some (UInt32.ofNat n.toNat) else none

/-- Eight lower-case hexadecimal digits after `0x`. -/
def hex (w : UInt32) : String :=
  "0x" ++ String.ofList ((Nat.toDigits 16 w.toNat).leftpad 8 '0')

end Word

end ShaderInterface
