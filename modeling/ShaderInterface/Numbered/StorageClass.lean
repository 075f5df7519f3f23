import ShaderInterface.Numbered.Basic

namespace ShaderInterface

/-- Where a variable lives; `unknown` holds every class without a number here. -/
inductive StorageClass
  | uniformConstant
  | input
  | uniform
  | output
  | workgroup
  | crossWorkgroup
  | privateGlobal
  | function
  | generic
  | pushConstant
  | atomicCounter
  | image
  | storageBuffer
  | unknown
  deriving DecidableEq

namespace StorageClass

def members : List StorageClass :=
  [.uniformConstant, .input, .uniform, .output, .workgroup, .crossWorkgroup, .privateGlobal,
   .function, .generic, .pushConstant, .atomicCounter, .image, .storageBuffer, .unknown]

def code : StorageClass → Int
  | uniformConstant => 0
  | input => 1
  | uniform => 2
  | output => 3
  | workgroup => 4
  | crossWorkgroup => 5
  | privateGlobal => 6
  | function => 7
  | generic => 8
  | pushConstant => 9
  | atomicCounter => 10
  | image => 11
  | storageBuffer => 12
  | unknown => -1

def name : StorageClass → String
  | uniformConstant => "UNIFORM_CONSTANT"
  | input => "INPUT"
  | uniform => "UNIFORM"
  | output => "OUTPUT"
  | workgroup => "WORKGROUP"
  | crossWorkgroup => "CROSS_WORKGROUP"
  | privateGlobal => "PRIVATE"
  | function => "FUNCTION"
  | generic => "GENERIC"
  | pushConstant => "PUSH_CONSTANT"
  | atomicCounter => "ATOMIC_COUNTER"
  | image => "IMAGE"
  | storageBuffer => "STORAGE_BUFFER"
  | unknown => "UNKNOWN"

end StorageClass

instance : Numbered StorageClass where
  family := "StorageClass"
  members := StorageClass.members
  code := StorageClass.code
  name := StorageClass.name
  mem_members a := by cases a <;> decide
  nodup_codes := by decide

end ShaderInterface
