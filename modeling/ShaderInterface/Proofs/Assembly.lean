import ShaderInterface.Proofs.Frames
import ShaderInterface.Proofs.PackedText
import ShaderInterface.Proofs.Spelling

namespace ShaderInterface

namespace Assembly

/-- The operands of a type declaration behind its target, as they are written down. A flag is a
word; it is set by 1 only. -/
inductive TypeForm
  | void
  | bool
  | int (width signed : UInt32)
  | float (width : UInt32)
  | vector (component count : UInt32)
  | matrix (column count : UInt32)
  | image (sampledType : UInt32) (dimension : Dimension)
      (depth arrayed multisampled sampled : UInt32) (format : ImageFormat)
      (access? : Option AccessQualifier)
  | sampler
  | sampledImage (image : UInt32)
  | array (element length : UInt32)
  | struct (members : List UInt32)
  | pointer (storage target : UInt32)
  deriving DecidableEq

namespace TypeForm

def number : TypeForm → UInt16
  | void => 19
  | bool => 20
  | int _ _ => 21
  | float _ => 22
  | vector _ _ => 23
  | matrix _ _ => 24
  | image _ _ _ _ _ _ _ _ => 25
  | sampler => 26
  | sampledImage _ => 27
  | array _ _ => 28
  | struct _ => 30
  | pointer _ _ => 32

def operands : TypeForm → List UInt32
  | void | bool | sampler => []
  | int width signed => [width, signed]
  | float width => [width]
  | vector component count => [component, count]
  | matrix column count => [column, count]
  | image sampledType dimension depth arrayed multisampled sampled format access? =>
    sampledType :: Numbered.word dimension :: depth :: arrayed :: multisampled :: sampled ::
      Numbered.word format :: access?.toList.map Numbered.word
  | sampledImage target => [target]
  | array element length => [element, length]
  | struct members => members
  | pointer storage target => [storage, target]

def ids : TypeForm → List UInt32
  | void | bool | int _ _ | float _ | sampler => []
  | vector id _ | matrix id _ | image id _ _ _ _ _ _ _ | sampledImage id | pointer _ id => [id]
  | array element length => [element, length]
  | struct members => members

def decl : TypeForm → TypeDecl
  | void => .void
  | bool => .bool
  | int width signed => .int width (signed == 1)
  | float width => .float width
  | vector component count => .vector component count
  | matrix column count => .matrix column count
  | image sampledType dimension depth arrayed multisampled sampled format access? =>
    .image ⟨sampledType, dimension, depth == 1, arrayed == 1, multisampled == 1, sampled == 1,
      format, access?⟩
  | sampler => .sampler
  | sampledImage target => .sampledImage target
  | array element length => .array element length
  | struct members => .struct members
  | pointer storage target => .pointer (Numbered.ofWord .unknown storage) target

end TypeForm

/-- An instruction as it is written down. The last list of each holds all words to its end. -/
inductive Statement
  | entryPoint (model function : UInt32) (text : String) (interfaceIds : List UInt32)
  | localSize (function x y z : UInt32) (surplus : List UInt32)
  | otherMode (function mode : UInt32) (literals : List UInt32)
  | name (target : UInt32) (text : String)
  | memberName (target member : UInt32) (text : String)
  | decorate (target kind : UInt32) (literals : List UInt32)
  | memberDecorate (target member kind : UInt32) (literals : List UInt32)
  | declareType (target : UInt32) (form : TypeForm)
  | declareVariable (type target storage : UInt32) (initializer : List UInt32)
  | declareConstant (type target : UInt32) (values : List UInt32)
  | declareComposite (type target : UInt32) (values : List UInt32)
  | unhandled (number : UInt16) (operands : List UInt32)
  deriving DecidableEq

namespace Statement

def number : Statement → UInt16
  | name _ _ => 5
  | memberName _ _ _ => 6
  | entryPoint _ _ _ _ => 15
  | localSize _ _ _ _ _ | otherMode _ _ _ => 16
  | declareType _ form => form.number
  | declareConstant _ _ _ => 43
  | declareComposite _ _ _ => 44
  | declareVariable _ _ _ _ => 59
  | decorate _ _ _ => 71
  | memberDecorate _ _ _ _ => 72
  | unhandled number _ => number

def operands : Statement → List UInt32
  | entryPoint model function text interfaceIds =>
    model :: function :: (Utf8.pack text ++ interfaceIds)
  | localSize function x y z surplus => function :: 17 :: x :: y :: z :: surplus
  | otherMode function mode literals => function :: mode :: literals
  | name target text => target :: Utf8.pack text
  | memberName target member text => target :: member :: Utf8.pack text
  | decorate target kind literals => target :: kind :: literals
  | memberDecorate target member kind literals => target :: member :: kind :: literals
  | declareType target form => target :: form.operands
  | declareVariable type target storage initializer => type :: target :: storage :: initializer
  | declareConstant type target values | declareComposite type target values =>
    type :: target :: values
  | unhandled _ operands => operands

def ids : Statement → List UInt32
  | entryPoint _ function _ interfaceIds => function :: interfaceIds
  | localSize function _ _ _ _ | otherMode function _ _ => [function]
  | name target _ | memberName target _ _ | decorate target _ _ | memberDecorate target _ _ _ =>
    [target]
  | declareType target form => target :: form.ids
  | declareVariable type target _ initializer => type :: target :: initializer
  | declareConstant type target _ | declareComposite type target _ => [type, target]
  | unhandled _ _ => []

/-- What the operand kinds ask for beside ids in range. -/
def WellFormed : Statement → Prop
  | entryPoint _ _ text _ | name _ text => '\x00' ∉ text.toList
  | memberName _ member text => member < 65533 ∧ '\x00' ∉ text.toList
  | memberDecorate _ member _ _ => member < 65533
  | otherMode _ mode _ => mode ≠ 17
  | unhandled number _ => number ∉ Instruction.handledCodes
  | _ => True

instance (s : Statement) : Decidable s.WellFormed :=
  match s with
  | entryPoint _ _ text _ | name _ text => inferInstanceAs (Decidable ('\x00' ∉ text.toList))
  | memberName _ member text =>
    inferInstanceAs (Decidable (member < 65533 ∧ '\x00' ∉ text.toList))
  | memberDecorate _ member _ _ => inferInstanceAs (Decidable (member < 65533))
  | otherMode _ mode _ => inferInstanceAs (Decidable (mode ≠ 17))
  | unhandled number _ => inferInstanceAs (Decidable (number ∉ Instruction.handledCodes))
  | localSize _ _ _ _ _ | decorate _ _ _ | declareType _ _ | declareVariable _ _ _ _
  | declareConstant _ _ _ | declareComposite _ _ _ => inferInstanceAs (Decidable True)

/-- The statement can stand in a module with this bound. The first word of an instruction counts
its words in sixteen bits. -/
structure Admissible (bound : UInt32) (s : Statement) : Prop where
  wellFormed : s.WellFormed
  ids_lt : ∀ id ∈ s.ids, id < bound
  length_lt : s.operands.length + 1 < 65536

instance (bound : UInt32) (s : Statement) : Decidable (s.Admissible bound) :=
  -- Over the list, not over all words.
  have : Decidable (∀ id ∈ s.ids, id < bound) := List.decidableBAll (· < bound) s.ids
  decidable_of_iff (s.WellFormed ∧ (∀ id ∈ s.ids, id < bound) ∧ s.operands.length + 1 < 65536)
    ⟨fun ⟨hw, hi, hl⟩ => ⟨hw, hi, hl⟩, fun ⟨hw, hi, hl⟩ => ⟨hw, hi, hl⟩⟩

/-- What the statement says about the interface. -/
def meaning? : Statement → Option Instruction
  | entryPoint model function text interfaceIds =>
    some (.entryPoint ⟨Numbered.ofWord .unknown model, function, text, interfaceIds⟩)
  | localSize function x y z _ => some (.localSize function ⟨x, y, z⟩)
  | otherMode function mode _ => some (.otherMode function mode)
  | name target text => some (.name target text)
  | memberName target member text => some (.memberName target member text)
  | decorate target kind literals =>
    some (.decorate target ⟨Numbered.ofWord .unknown kind, literals.map fun w => (w.toNat : Int)⟩)
  | memberDecorate target member kind literals =>
    some (.memberDecorate target member
      ⟨Numbered.ofWord .unknown kind, literals.map fun w => (w.toNat : Int)⟩)
  | declareType target form => some (.declareType target form.decl)
  | declareVariable type target storage initializer =>
    some (.declareVariable target ⟨type, Numbered.ofWord .unknown storage, initializer⟩)
  | declareConstant type target values | declareComposite type target values =>
    some (.declareConstant target ⟨type, values⟩)
  | unhandled _ _ => none

def frame (s : Statement) : Frame :=
  ⟨s.number, s.operands⟩

/-- The words of the statement, the first with their count in its high half. -/
def write (s : Statement) : List UInt32 :=
  (UInt32.ofNat (s.operands.length + 1) <<< 16 ||| s.number.toUInt32) :: s.operands

end Statement

def assemble (h : Header) (statements : List Statement) : List UInt32 :=
  0x07230203 :: h.version :: h.generator :: h.bound :: h.schema ::
    statements.flatMap Statement.write

end Assembly

end ShaderInterface
