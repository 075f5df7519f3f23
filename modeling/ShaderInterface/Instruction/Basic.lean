import ShaderInterface.IdTable.Basic
import ShaderInterface.Numbered.ExecutionModel

namespace ShaderInterface

structure EntryPoint where
  model : ExecutionModel
  function : UInt32
  name : String
  interfaceIds : List UInt32
  deriving DecidableEq

/-- What stands for the entry point of a module that declares none. -/
def EntryPoint.default : EntryPoint :=
  ⟨.unknown, 0, "main", []⟩

/-- An instruction that says something about the interface, its operands understood. -/
inductive Instruction
  | entryPoint (point : EntryPoint)
  | localSize (function : UInt32) (size : LocalSize)
  | otherMode (function mode : UInt32)
  | name (target : UInt32) (text : String)
  | memberName (target member : UInt32) (text : String)
  | decorate (target : UInt32) (decoration : Decoration)
  | memberDecorate (target member : UInt32) (decoration : Decoration)
  | declareType (target : UInt32) (decl : TypeDecl)
  | declareVariable (target : UInt32) (decl : VariableDecl)
  | declareConstant (target : UInt32) (decl : ConstantDecl)
  deriving DecidableEq

end ShaderInterface
