import ShaderInterface.Word

namespace ShaderInterface

/-- The preamble of a module, its magic number left out. -/
structure Header where
  version : UInt32
  generator : UInt32
  bound : UInt32
  schema : UInt32
  deriving DecidableEq

namespace Header

def magic : UInt32 := 0x07230203

def size : Nat := 5

def toWords (h : Header) : List UInt32 :=
  [magic, h.version, h.generator, h.bound, h.schema]

def majorVersion (h : Header) : UInt8 :=
  (h.version >>> 16).toUInt8

def minorVersion (h : Header) : UInt8 :=
  (h.version >>> 8).toUInt8

end Header

end ShaderInterface
