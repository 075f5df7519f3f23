import ShaderInterface.Numbered.Basic

namespace ShaderInterface

inductive AccessQualifier
  | readOnly
  | writeOnly
  | readWrite
  deriving DecidableEq

namespace AccessQualifier

def members : List AccessQualifier :=
  [.readOnly, .writeOnly, .readWrite]

def code : AccessQualifier → Int
  | readOnly => 0
  | writeOnly => 1
  | readWrite => 2

def name : AccessQualifier → String
  | readOnly => "READ_ONLY"
  | writeOnly => "WRITE_ONLY"
  | readWrite => "READ_WRITE"

end AccessQualifier

instance : Numbered AccessQualifier where
  family := "AccessQualifier"
  members := AccessQualifier.members
  code := AccessQualifier.code
  name := AccessQualifier.name
  mem_members a := by cases a <;> decide
  nodup_codes := by decide

end ShaderInterface
