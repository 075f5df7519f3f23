import ShaderInterface.Instruction.Read
import ShaderInterface.Proofs.Settles

namespace ShaderInterface

/-- A fault of words that do not spell a module. -/
def Fault.Unreadable (f : Fault) : Prop :=
  f.category ∈ [Fault.Category.malformed, .unsupportedFeature]

def Event.isUnknownCode : Event → Bool
  | unknownCode _ _ => true
  | _ => false

/-- Nothing is reported but unknown codes. -/
def Traced.Quiet {α : Type} (x : Traced α) : Prop :=
  ∀ e ∈ x.log, e.isUnknownCode = true

theorem Traced.quiet_of_log_eq_nil {α : Type} {x : Traced α} (h : x.log = []) : x.Quiet := by
  simp [Quiet, h]

namespace Numbered

variable {α : Type} [Numbered α]

theorem settles_decodeOpen (numbering : OpenNumbering) (unknown : α) (n : Int) :
    Settles (decodeOpen numbering unknown n).result (fun _ => True) Fault.Unreadable := by
  rw [decodeOpen]
  split <;> exact .ok trivial

theorem quiet_decodeOpen (numbering : OpenNumbering) (unknown : α) (n : Int) :
    (decodeOpen numbering unknown n).Quiet := by
  rw [decodeOpen]
  split
  · exact Traced.quiet_of_log_eq_nil rfl
  · exact List.forall_mem_singleton.2 rfl

theorem settles_decodeClosed (numbering : ClosedNumbering) (n : Int) :
    Settles (decodeClosed numbering n : Except Fault α) (fun _ => True)
      Fault.Unreadable := by
  rw [decodeClosed]
  split
  · exact .ok trivial
  · exact .error (.tail _ (.head _))

end Numbered

namespace Reading

/-- A reading put together from operands and from judgements of what was read. -/
inductive Composed : {α : Type} → Reading α → Prop
  | pure {α : Type} (a : α) : Composed (Pure.pure a)
  | bind {α β : Type} {read : Reading α} {next : α → Reading β} (h : Composed read)
      (hnext : ∀ a, Composed (next a)) : Composed (read >>= next)
  | lift {α : Type} {x : Traced α} (h : Settles x.result (fun _ => True) Fault.Unreadable)
      (hquiet : x.Quiet) : Composed (liftM x : Reading α)
  | word : Composed Reading.word
  | flag : Composed Reading.flag
  | id : Composed Reading.id
  | member : Composed Reading.member
  | ids : Composed Reading.ids
  | literals : Composed Reading.literals
  | text : Composed Reading.text
  | hasRemaining : Composed Reading.hasRemaining

namespace Composed

theorem decodeOpen {α : Type} [Numbered α] (numbering : OpenNumbering) (unknown : α) (n : Int) :
    Composed (liftM (Numbered.decodeOpen numbering unknown n) : Reading α) :=
  lift (Numbered.settles_decodeOpen numbering unknown n)
    (Numbered.quiet_decodeOpen numbering unknown n)

theorem decodeClosed {α : Type} [Numbered α] (numbering : ClosedNumbering) (n : Int) :
    Composed (liftM (Traced.lift (Numbered.decodeClosed numbering n)) : Reading α) :=
  lift (Numbered.settles_decodeClosed numbering n) (Traced.quiet_of_log_eq_nil rfl)

theorem executionModel : Composed Reading.executionModel :=
  word.bind fun _ => decodeOpen _ _ _

theorem storageClass : Composed Reading.storageClass :=
  word.bind fun _ => decodeOpen _ _ _

theorem dimension : Composed Reading.dimension :=
  word.bind fun _ => decodeClosed _ _

theorem imageFormat : Composed Reading.imageFormat :=
  word.bind fun _ => decodeClosed _ _

theorem accessQualifier? : Composed Reading.accessQualifier? := by
  refine hasRemaining.bind fun remaining => ?_
  split
  · exact word.bind fun _ => (decodeClosed _ _).bind fun _ => pure _
  · exact pure none

theorem decoration : Composed Reading.decoration :=
  (word.bind fun _ => decodeOpen _ _ _).bind fun _ => literals.bind fun _ => pure _

theorem localSize : Composed Reading.localSize :=
  word.bind fun _ => word.bind fun _ => word.bind fun _ => pure _

theorem imageDecl : Composed Reading.imageDecl := by
  refine id.bind fun _ => dimension.bind fun _ => ?_
  refine flag.bind fun _ => flag.bind fun _ => flag.bind fun _ => flag.bind fun _ => ?_
  exact imageFormat.bind fun _ => accessQualifier?.bind fun _ => pure _

end Composed

end Reading

open Reading

namespace TypeDecl

theorem composed_reading {opcode : Opcode} {read : Reading TypeDecl}
    (h : reading? opcode = some read) : Composed read := by
  cases opcode with
  | opTypeVoid | opTypeBool | opTypeSampler =>
    cases h
    exact .pure _
  | opTypeInt =>
    cases h
    exact Composed.word.bind fun _ => Composed.flag.bind fun _ => .pure _
  | opTypeFloat =>
    cases h
    exact Composed.word.bind fun _ => .pure _
  | opTypeVector | opTypeMatrix =>
    cases h
    exact Composed.id.bind fun _ => Composed.word.bind fun _ => .pure _
  | opTypeImage =>
    cases h
    exact Composed.imageDecl.bind fun _ => .pure _
  | opTypeSampledImage =>
    cases h
    exact Composed.id.bind fun _ => .pure _
  | opTypeArray =>
    cases h
    exact Composed.id.bind fun _ => Composed.id.bind fun _ => .pure _
  | opTypeStruct =>
    cases h
    exact Composed.ids.bind fun _ => .pure _
  | opTypePointer =>
    cases h
    exact Composed.storageClass.bind fun _ => Composed.id.bind fun _ => .pure _
  | _ => cases h

end TypeDecl

namespace Instruction

theorem composed_readEntryPoint : Composed readEntryPoint := by
  refine Composed.executionModel.bind fun _ => Composed.id.bind fun _ => ?_
  exact Composed.text.bind fun _ => Composed.ids.bind fun _ => .pure _

theorem composed_readExecutionMode : Composed readExecutionMode := by
  refine Composed.id.bind fun _ => Composed.word.bind fun mode => ?_
  split
  · exact Composed.localSize.bind fun _ => .pure _
  · exact .pure _

theorem composed_readVariable : Composed readVariable := by
  refine Composed.id.bind fun _ => Composed.id.bind fun _ => ?_
  exact Composed.storageClass.bind fun _ => Composed.ids.bind fun _ => .pure _

theorem composed_readConstant : Composed readConstant := by
  refine Composed.id.bind fun _ => Composed.id.bind fun _ => ?_
  exact Composed.literals.bind fun _ => .pure _

theorem composed_reading {opcode : Opcode} {read : Reading Instruction}
    (h : reading? opcode = some read) : Composed read := by
  cases opcode with
  | opEntryPoint =>
    cases h
    exact composed_readEntryPoint
  | opExecutionMode =>
    cases h
    exact composed_readExecutionMode
  | opName =>
    cases h
    exact Composed.id.bind fun _ => Composed.text.bind fun _ => .pure _
  | opMemberName =>
    cases h
    refine Composed.id.bind fun _ => Composed.member.bind fun _ => ?_
    exact Composed.text.bind fun _ => .pure _
  | opDecorate =>
    cases h
    exact Composed.id.bind fun _ => Composed.decoration.bind fun _ => .pure _
  | opMemberDecorate =>
    cases h
    refine Composed.id.bind fun _ => Composed.member.bind fun _ => ?_
    exact Composed.decoration.bind fun _ => .pure _
  | opVariable =>
    cases h
    exact composed_readVariable
  | opConstant | opConstantComposite =>
    cases h
    exact composed_readConstant
  -- What is left declares a type or is not read at all.
  | _ =>
    simp only [reading?] at h
    obtain ⟨readType, htype, hread⟩ := Option.map_eq_some_iff.1 h
    subst hread
    exact Composed.id.bind fun _ =>
      (TypeDecl.composed_reading htype).bind fun _ => .pure _

end Instruction

end ShaderInterface
