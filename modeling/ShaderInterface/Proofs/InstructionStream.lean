import Mathlib.Data.List.Forall2
import ShaderInterface.Proofs.Frames
import ShaderInterface.Proofs.Program
import ShaderInterface.Proofs.Yields

namespace ShaderInterface

namespace TypeDecl

def opcode : TypeDecl → Opcode
  | void => .opTypeVoid
  | bool => .opTypeBool
  | int _ _ => .opTypeInt
  | float _ => .opTypeFloat
  | vector _ _ => .opTypeVector
  | matrix _ _ => .opTypeMatrix
  | image _ => .opTypeImage
  | sampler => .opTypeSampler
  | sampledImage _ => .opTypeSampledImage
  | array _ _ => .opTypeArray
  | struct _ => .opTypeStruct
  | pointer _ _ => .opTypePointer

def ids : TypeDecl → List UInt32
  | void | bool | int _ _ | float _ | sampler => []
  | vector id _ | matrix id _ | sampledImage id | pointer _ id => [id]
  | image decl => [decl.sampledType]
  | array element length => [element, length]
  | struct members => members

/-- What holds of a type that is read from the operands behind its target. -/
structure SpelledBy (bound : Int) (opcode : Opcode) (operands : List UInt32) (decl : TypeDecl) :
    Prop where
  eq_some : spelled? opcode.number.toNat operands = some decl
  ids_lt : ∀ id ∈ decl.ids, (id.toNat : Int) < bound

open Reading

variable {number : UInt16} {bound : Int} {position : Nat} {words : List UInt32}

theorem yields_imageDecl :
    Yields imageDecl ⟨number, bound, position, words⟩ fun decl _ =>
      (image decl).SpelledBy bound .opTypeImage words := by
  refine .bind (.id ?_)
  rintro sampledType rest rfl hs
  refine .bind (.decodeClosed ?_)
  rintro dimension w rest rfl hdimension
  refine .bind (.flag ?_)
  rintro depth rest rfl
  refine .bind (.flag ?_)
  rintro arrayed rest rfl
  refine .bind (.flag ?_)
  rintro multisampled rest rfl
  refine .bind (.flag ?_)
  rintro sampled rest rfl
  apply Yields.bind
  apply Yields.decodeClosed
  intro format w' rest he hformat
  subst he
  refine .bind (.accessQualifier? ?_)
  intro access? haccess c
  refine .pure ⟨?_, List.forall_mem_singleton.2 hs⟩
  show (do return .image ⟨sampledType, ← Numbered.ofWord? w, depth == 1, arrayed == 1,
    multisampled == 1, sampled == 1, ← Numbered.ofWord? w', ← AccessQualifier.spelled? rest⟩ :
    Option TypeDecl) = _
  rw [hdimension, hformat, haccess]
  rfl

theorem yields_reading {opcode : Opcode} {read : Reading TypeDecl}
    (h : reading? opcode = some read) :
    Yields read ⟨number, bound, position, words⟩ fun decl _ =>
      decl.SpelledBy bound opcode words := by
  cases opcode with
  | opTypeVoid =>
    cases h
    exact .pure ⟨rfl, List.forall_mem_nil _⟩
  | opTypeBool =>
    cases h
    exact .pure ⟨rfl, List.forall_mem_nil _⟩
  | opTypeInt =>
    cases h
    refine .bind (.word ?_)
    rintro width rest rfl
    refine .bind (.flag ?_)
    rintro signed rest rfl
    exact .pure ⟨rfl, List.forall_mem_nil _⟩
  | opTypeFloat =>
    cases h
    refine .bind (.word ?_)
    rintro width rest rfl
    exact .pure ⟨rfl, List.forall_mem_nil _⟩
  | opTypeVector =>
    cases h
    refine .bind (.id ?_)
    rintro component rest rfl hc
    refine .bind (.word ?_)
    rintro count rest rfl
    exact .pure ⟨rfl, List.forall_mem_singleton.2 hc⟩
  | opTypeMatrix =>
    cases h
    refine .bind (.id ?_)
    rintro column rest rfl hc
    refine .bind (.word ?_)
    rintro count rest rfl
    exact .pure ⟨rfl, List.forall_mem_singleton.2 hc⟩
  | opTypeImage =>
    cases h
    exact .bind (yields_imageDecl.mono fun decl c hdecl => .pure hdecl)
  | opTypeSampler =>
    cases h
    exact .pure ⟨rfl, List.forall_mem_nil _⟩
  | opTypeSampledImage =>
    cases h
    refine .bind (.id ?_)
    rintro image rest rfl hi
    exact .pure ⟨rfl, List.forall_mem_singleton.2 hi⟩
  | opTypeArray =>
    cases h
    refine .bind (.id ?_)
    rintro element rest rfl he
    refine .bind (.id ?_)
    rintro length rest rfl hlength
    exact .pure ⟨rfl, List.forall_mem_cons.2 ⟨he, List.forall_mem_singleton.2 hlength⟩⟩
  | opTypeStruct =>
    cases h
    exact .bind (.ids fun hmembers c => .pure ⟨rfl, hmembers⟩)
  | opTypePointer =>
    cases h
    refine .bind (.decodeOpen ?_)
    rintro storage rest rfl
    refine .bind (.id ?_)
    rintro target rest rfl ht
    exact .pure ⟨rfl, List.forall_mem_singleton.2 ht⟩
  | _ => cases h

theorem opcode_eq_of_spelled? {opcode : Opcode} {decl : TypeDecl}
    (h : spelled? opcode.number.toNat words = some decl) : decl.opcode = opcode := by
  generalize hnumber : opcode.number.toNat = n at h
  apply Opcode.eq_of_toNat_number_eq
  rw [hnumber]
  unfold spelled? at h
  split at h
  case h_7 =>
    obtain ⟨dimension, -, h⟩ := Option.bind_eq_some_iff.1 h
    obtain ⟨format, -, h⟩ := Option.bind_eq_some_iff.1 h
    obtain ⟨access?, -, h⟩ := Option.bind_eq_some_iff.1 h
    cases h
    rfl
  all_goals
    cases h
    try rfl

end TypeDecl

namespace Instruction

/-- The instructions of the format that can say this. -/
def opcodes : Instruction → List Opcode
  | entryPoint _ => [.opEntryPoint]
  | localSize _ _ | otherMode _ _ => [.opExecutionMode]
  | name _ _ => [.opName]
  | memberName _ _ _ => [.opMemberName]
  | decorate _ _ => [.opDecorate]
  | memberDecorate _ _ _ => [.opMemberDecorate]
  | declareType _ decl => [decl.opcode]
  | declareVariable _ _ => [.opVariable]
  | declareConstant _ _ => [.opConstant, .opConstantComposite]

def ids : Instruction → List UInt32
  | entryPoint point => point.function :: point.interfaceIds
  | localSize function _ | otherMode function _ => [function]
  | name target _ | memberName target _ _ | decorate target _ | memberDecorate target _ _ =>
    [target]
  | declareType target decl => target :: decl.ids
  | declareVariable target decl => target :: decl.type :: decl.initializer
  | declareConstant target decl => [target, decl.type]

/-- What holds of an instruction that is read from the operands of a frame. -/
structure SpelledBy (bound : Int) (opcode : Opcode) (operands : List UInt32) (i : Instruction) :
    Prop where
  eq_some : spelled? opcode.number.toNat operands = some i
  ids_lt : ∀ id ∈ i.ids, (id.toNat : Int) < bound

open Reading

variable {number : UInt16} {bound : Int} {position : Nat} {operands : List UInt32}

theorem yields_readEntryPoint :
    Yields readEntryPoint ⟨number, bound, position, operands⟩ fun i _ =>
      i.SpelledBy bound .opEntryPoint operands := by
  refine .bind (.decodeOpen ?_)
  rintro model rest rfl
  refine .bind (.id ?_)
  rintro function rest rfl hf
  refine .bind (.text fun position' => .bind (.ids fun hi c => ?_))
  exact .pure ⟨rfl, List.forall_mem_cons.2 ⟨hf, hi⟩⟩

theorem yields_readExecutionMode :
    Yields readExecutionMode ⟨number, bound, position, operands⟩ fun i _ =>
      i.SpelledBy bound .opExecutionMode operands := by
  refine .bind (.id ?_)
  rintro function rest rfl hf
  have hids : ∀ id ∈ [function], (id.toNat : Int) < bound := List.forall_mem_singleton.2 hf
  refine .bind (.word ?_)
  rintro mode rest rfl
  -- Only the mode that gives a size has operands of interest behind it.
  by_cases hmode : mode = localSizeMode
  · rw [if_pos hmode]
    refine .bind (.localSize ?_)
    rintro x y z rest rfl c
    exact .pure ⟨if_pos hmode, hids⟩
  · rw [if_neg hmode]
    exact .pure ⟨if_neg hmode, hids⟩

theorem yields_readVariable :
    Yields readVariable ⟨number, bound, position, operands⟩ fun i _ =>
      i.SpelledBy bound .opVariable operands := by
  refine .bind (.id ?_)
  rintro type rest rfl htype
  refine .bind (.id ?_)
  rintro target rest rfl htarget
  refine .bind (.decodeOpen ?_)
  rintro storage rest rfl
  refine .bind (.ids fun hi c => .pure ⟨rfl, ?_⟩)
  exact List.forall_mem_cons.2 ⟨htarget, List.forall_mem_cons.2 ⟨htype, hi⟩⟩

theorem yields_readConstant {opcode : Opcode} (h : opcode ∈ [.opConstant, .opConstantComposite]) :
    Yields readConstant ⟨number, bound, position, operands⟩ fun i _ =>
      i.SpelledBy bound opcode operands := by
  refine .bind (.id ?_)
  rintro type rest rfl htype
  refine .bind (.id ?_)
  rintro target rest rfl htarget
  refine .bind (.literals fun c => .pure ⟨?_, ?_⟩)
  · rcases List.mem_pair.1 h with rfl | rfl <;> rfl
  · exact List.forall_mem_cons.2 ⟨htarget, List.forall_mem_singleton.2 htype⟩

theorem yields_reading {opcode : Opcode} {read : Reading Instruction}
    (h : reading? opcode = some read) :
    Yields read ⟨number, bound, position, operands⟩ fun i _ =>
      i.SpelledBy bound opcode operands := by
  cases opcode with
  | opEntryPoint =>
    cases h
    exact yields_readEntryPoint
  | opExecutionMode =>
    cases h
    exact yields_readExecutionMode
  | opName =>
    cases h
    refine .bind (.id ?_)
    rintro target rest rfl ht
    exact .bind (.text fun position' => .pure ⟨rfl, List.forall_mem_singleton.2 ht⟩)
  | opMemberName =>
    cases h
    refine .bind (.id ?_)
    rintro target rest rfl ht
    refine .bind (.member ?_)
    rintro member rest rfl -
    exact .bind (.text fun position' => .pure ⟨rfl, List.forall_mem_singleton.2 ht⟩)
  | opDecorate =>
    cases h
    refine .bind (.id ?_)
    rintro target rest rfl ht
    refine .bind (.decoration ?_)
    rintro kind literals rfl c
    exact .pure ⟨rfl, List.forall_mem_singleton.2 ht⟩
  | opMemberDecorate =>
    cases h
    refine .bind (.id ?_)
    rintro target rest rfl ht
    refine .bind (.member ?_)
    rintro member rest rfl -
    refine .bind (.decoration ?_)
    rintro kind literals rfl c
    exact .pure ⟨rfl, List.forall_mem_singleton.2 ht⟩
  | opVariable =>
    cases h
    exact yields_readVariable
  | opConstant =>
    cases h
    exact yields_readConstant (by decide)
  | opConstantComposite =>
    cases h
    exact yields_readConstant (by decide)
  -- What is left declares a type or is not read at all.
  | _ =>
    simp only [reading?] at h
    obtain ⟨readType, htype, hread⟩ := Option.map_eq_some_iff.1 h
    subst hread
    refine .bind (.id ?_)
    rintro target rest rfl ht
    refine .bind ((TypeDecl.yields_reading htype).mono fun decl c hdecl => .pure ⟨?_, ?_⟩)
    · exact congrArg (Option.map (declareType target)) hdecl.eq_some
    · exact List.forall_mem_cons.2 ⟨ht, hdecl.ids_lt⟩

def Begins : Instruction → List UInt32 → Prop
  | entryPoint point, operands => ∃ model, [model, point.function] <+: operands
  | localSize function size, operands =>
    [function, localSizeMode, size.x, size.y, size.z] <+: operands
  | otherMode function mode, operands => mode ≠ localSizeMode ∧ [function, mode] <+: operands
  | name target _, operands | decorate target _, operands | declareType target _, operands =>
    [target] <+: operands
  | memberName target member _, operands | memberDecorate target member _, operands =>
    [target, member] <+: operands
  | declareVariable target decl, operands => [decl.type, target] <+: operands
  | declareConstant target decl, operands => operands = decl.type :: target :: decl.values

theorem SpelledBy.opcode_mem_and_begins {opcode : Opcode} {i : Instruction}
    (h : i.SpelledBy bound opcode operands) : opcode ∈ i.opcodes ∧ i.Begins operands := by
  have hspelled := h.eq_some
  generalize hnumber : opcode.number.toNat = n at hspelled
  have hopcode : ∀ opcode', opcode'.number.toNat = n → opcode ∈ [opcode'] :=
    fun opcode' hn => List.mem_singleton.2 (Opcode.eq_of_toNat_number_eq (hnumber.trans hn.symm))
  unfold spelled? at hspelled
  split at hspelled
  · cases hspelled
    exact ⟨hopcode .opName rfl, _, rfl⟩
  · cases hspelled
    exact ⟨hopcode .opMemberName rfl, _, rfl⟩
  · cases hspelled
    exact ⟨hopcode .opEntryPoint rfl, _, _, rfl⟩
  · have hmem := hopcode .opExecutionMode rfl
    unfold spelledMode? at hspelled
    split_ifs at hspelled with hmode
    · split at hspelled <;> cases hspelled
      exact ⟨hmem, _, congrArg (_ :: · :: _) hmode.symm⟩
    · cases hspelled
      exact ⟨hmem, hmode, _, rfl⟩
  · cases hspelled
    exact ⟨List.mem_cons.2 (.inl (List.mem_singleton.1 (hopcode .opConstant rfl))), rfl⟩
  · cases hspelled
    exact ⟨List.mem_cons_of_mem _ (hopcode .opConstantComposite rfl), rfl⟩
  · cases hspelled
    exact ⟨hopcode .opVariable rfl, _, rfl⟩
  · cases hspelled
    exact ⟨hopcode .opDecorate rfl, _, rfl⟩
  · cases hspelled
    exact ⟨hopcode .opMemberDecorate rfl, _, rfl⟩
  · obtain ⟨decl, hdecl, rfl⟩ := Option.map_eq_some_iff.1 hspelled
    rw [← hnumber] at hdecl
    have heq := TypeDecl.opcode_eq_of_spelled? hdecl
    exact ⟨List.mem_singleton.2 heq.symm, _, rfl⟩
  · cases hspelled

theorem SpelledBy.mem_opcodes {opcode : Opcode} {i : Instruction}
    (h : i.SpelledBy bound opcode operands) : opcode ∈ i.opcodes :=
  h.opcode_mem_and_begins.1

theorem SpelledBy.begins {opcode : Opcode} {i : Instruction}
    (h : i.SpelledBy bound opcode operands) : i.Begins operands :=
  h.opcode_mem_and_begins.2

end Instruction

namespace Frame

structure Tells (bound : Nat) (f : Frame) (i : Instruction) : Prop where
  read_eq : f.read bound = .ok (some i)
  spelledBy : ∃ opcode, Numbered.ofCode? f.opcode.toNat = some opcode ∧
    i.SpelledBy bound opcode f.operands

theorem tells_of_read {bound : Nat} {f : Frame} {i : Instruction}
    (h : f.read bound = .ok (some i)) : f.Tells bound i := by
  refine ⟨h, ?_⟩
  cases hreading : f.reading? with
  | none =>
    rw [read_of_reading?_eq_none hreading] at h
    cases h
  | some reading =>
    rw [read_of_reading?_eq_some hreading] at h
    obtain ⟨p, hresult, hi⟩ := exists_of_map_eq_ok h
    obtain ⟨opcode, hopcode, hread⟩ := Option.bind_eq_some_iff.1 hreading
    rw [← Option.some.inj hi]
    exact ⟨opcode, hopcode, Instruction.yields_reading hread p.1 p.2 hresult⟩

theorem isRead_of_read {bound : Nat} {f : Frame} {i? : Option Instruction}
    (h : f.read bound = .ok i?) : i?.isSome = Module.isRead f := by
  rw [Module.isRead]
  cases hreading : f.reading? with
  | none =>
    rw [read_of_reading?_eq_none hreading] at h
    rw [← Except.ok.inj h]
    rfl
  | some reading =>
    rw [read_of_reading?_eq_some hreading] at h
    obtain ⟨p, -, hi⟩ := exists_of_map_eq_ok h
    rw [← hi]
    rfl

theorem Tells.spelled?_eq {bound : Nat} {f : Frame} {i : Instruction} (h : f.Tells bound i) :
    f.spelled? = some i := by
  obtain ⟨opcode, hopcode, hspelled⟩ := h.spelledBy
  rw [spelled?, Opcode.eq_number_of_ofCode? hopcode]
  exact hspelled.eq_some

theorem opcode_mem_of_spelled? {f : Frame} {i : Instruction} (h : f.spelled? = some i) :
    f.opcode ∈ Instruction.handledCodes := by
  have hnumber : f.opcode = UInt16.ofNat f.opcode.toNat := UInt16.ofNat_toNat.symm
  rw [hnumber]
  unfold spelled? at h
  generalize f.opcode.toNat = n at h
  unfold Instruction.spelled? at h
  split at h
  case h_10 =>
    obtain ⟨decl, hdecl, -⟩ := Option.map_eq_some_iff.1 h
    unfold TypeDecl.spelled? at hdecl
    split at hdecl <;> first | decide | cases hdecl
  all_goals first | decide | cases h

theorem spelled?_of_read {bound : Nat} {f : Frame} {i? : Option Instruction}
    (h : f.read bound = .ok i?) : f.spelled? = i? := by
  cases i? with
  | some i => exact (tells_of_read h).spelled?_eq
  | none =>
    have hunread : f.opcode ∉ Instruction.handledCodes := by
      rw [← reading?_isSome_iff]
      exact Bool.eq_false_iff.1 (isRead_of_read h).symm
    exact Option.eq_none_iff_forall_ne_some.2 fun i hi => hunread (opcode_mem_of_spelled? hi)

theorem eq_filterMap_of_readAll {bound : Nat} {frames : List Frame}
    {instructions : List Instruction} (h : readAll bound frames = .ok instructions) :
    instructions = frames.filterMap spelled? := by
  induction frames generalizing instructions with
  | nil =>
    cases h
    rfl
  | cons f rest ih =>
    obtain ⟨i?, others, hread, hothers, he⟩ := exists_of_readAll_cons h
    rw [he, ih hothers, List.filterMap_cons, spelled?_of_read hread]
    cases i? <;> rfl

theorem isSome_spelled?_of_readAll {bound : Nat} {frames : List Frame}
    {instructions : List Instruction} (h : readAll bound frames = .ok instructions) :
    ∀ f ∈ frames, f.opcode ∈ Instruction.handledCodes → f.spelled?.isSome = true := by
  induction frames generalizing instructions with
  | nil => exact List.forall_mem_nil _
  | cons f rest ih =>
    obtain ⟨i?, others, hread, hothers, -⟩ := exists_of_readAll_cons h
    refine List.forall_mem_cons.2 ⟨fun hopcode => ?_, ih hothers⟩
    rw [spelled?_of_read hread, isRead_of_read hread]
    exact (reading?_isSome_iff f).2 hopcode

/-- Each handled frame tells one instruction, and the instructions stand in the order of the
frames. -/
theorem forall₂_of_readAll {bound : Nat} {frames : List Frame} {instructions : List Instruction}
    (h : readAll bound frames = .ok instructions) :
    List.Forall₂ (Tells bound) (frames.filter Module.isRead) instructions := by
  induction frames generalizing instructions with
  | nil =>
    cases h
    exact .nil
  | cons f rest ih =>
    obtain ⟨i?, others, hread, hothers, he⟩ := exists_of_readAll_cons h
    have hisRead := isRead_of_read hread
    rw [he]
    cases i? with
    | none =>
      rw [List.filter_cons_of_neg (by rw [← hisRead]; exact Bool.false_ne_true)]
      exact ih hothers
    | some i =>
      rw [List.filter_cons_of_pos hisRead.symm]
      exact .cons (tells_of_read hread) (ih hothers)

theorem exists_tells_of_forall₂ {bound : Nat} {frames : List Frame}
    {instructions : List Instruction} (h : List.Forall₂ (Tells bound) frames instructions) :
    ∀ i ∈ instructions, ∃ f : Frame, f.Tells bound i := by
  induction h with
  | nil => exact List.forall_mem_nil _
  | cons htells _ ih => exact List.forall_mem_cons.2 ⟨⟨_, htells⟩, ih⟩

theorem ids_lt_of_forall₂ {bound : Nat} {frames : List Frame} {instructions : List Instruction}
    (h : List.Forall₂ (Tells bound) frames instructions) :
    ∀ i ∈ instructions, ∀ id ∈ i.ids, id.toNat < bound := by
  intro i hi id hid
  obtain ⟨f, htells⟩ := exists_tells_of_forall₂ h i hi
  obtain ⟨opcode, -, hspelled⟩ := htells.spelledBy
  exact Int.ofNat_lt.1 (hspelled.ids_lt id hid)

end Frame

end ShaderInterface
