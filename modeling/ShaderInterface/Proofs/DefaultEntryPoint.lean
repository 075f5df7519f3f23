import ShaderInterface.Proofs.SpokenFrames

namespace ShaderInterface

namespace Frame

open Instruction

variable {bound : Nat} {f : Frame} {frames : List Frame} {i : Instruction} {is : List Instruction}

theorem Tells.isSome_entryPoint? (h : f.Tells bound i) :
    i.entryPoint?.isSome = (f.opcode == Opcode.opEntryPoint.number) := by
  rw [Bool.eq_iff_iff, beq_iff_eq]
  constructor
  · intro hsome
    cases i with
    | entryPoint point => exact List.mem_singleton.1 h.opcode_mem
    | _ => cases hsome
  · intro hopcode
    have hmem := (h.spelledBy_number hopcode).mem_opcodes
    cases i with
    | entryPoint point => rfl
    | declareType target decl => cases decl <;> simp [opcodes, TypeDecl.opcode] at hmem
    | _ => simp [opcodes] at hmem

theorem last_entryPoint?_eq_none_iff (h : readAll bound frames = .ok is) :
    last Instruction.entryPoint? is = none ↔
      ∀ f ∈ frames, f.opcode ≠ Opcode.opEntryPoint.number := by
  have hcount : is.countP (·.entryPoint?.isSome) =
      frames.countP (·.opcode == Opcode.opEntryPoint.number) := by
    apply countP_eq_of_readAll h fun f i hf => hf.isSome_entryPoint?
    intro f hf
    apply beq_false_of_ne
    intro hopcode
    rw [hopcode] at hf
    exact hf (by decide)
  have hnone : is.countP (·.entryPoint?.isSome) = 0 ↔ ∀ i ∈ is, i.entryPoint? = none := by
    simp [List.countP_eq_zero]
  rw [last_eq_none_iff, ← hnone, hcount, List.countP_eq_zero]
  simp

end Frame

namespace Module

open Instruction

variable {words : List UInt32} {m : Module}

/-- The default entry point has the last size that an instruction gives to function 0. -/
theorem decode_without_entryPoint (hdecode : (decode words).result = .ok m) :
    ∃ body frames, (Header.read words).result = .ok (m.header, body) ∧
      Frame.split Header.size body = (frames, none) ∧
      ((∀ f ∈ frames, f.opcode ≠ Opcode.opEntryPoint.number) →
        m.entryPoint? = none ∧
        m.entryPoint = ⟨.unknown, 0, "main", []⟩ ∧
        m.localSize? = (frames.filterMap (Frame.groupSize? 0)).getLast? ∧
        (m.localSize? = none ↔ ∀ f ∈ frames, f.groupSize? 0 = none)) := by
  obtain ⟨is, hprogram, hprojects⟩ := exists_projects_of_decode hdecode
  obtain ⟨body, frames, hheader, hsplit, hread⟩ := program_eq_ok_iff.1 hprogram
  refine ⟨body, frames, hheader, hsplit, fun hnone => ?_⟩
  have hpoint : m.entryPoint? = none :=
    hprojects.entryPoint?_eq.trans ((Frame.last_entryPoint?_eq_none_iff hread).2 hnone)
  have hdefault : m.entryPoint = ⟨.unknown, 0, "main", []⟩ := by
    rw [hprojects.entryPoint_eq, hpoint, Option.getD_none]
  have hsize : m.localSize? = (frames.filterMap (Frame.groupSize? 0)).getLast? := by
    rw [hprojects.localSize?_eq, hdefault, Frame.last_localSizeOf?_eq hread]
  refine ⟨hpoint, hdefault, hsize, ?_⟩
  rw [hsize, List.getLast?_eq_none_iff, List.filterMap_eq_nil_iff]

def groupWords : List UInt32 :=
  [Header.magic, 0x10000, 0, 2, 0,
   0x60010, 0, 17, 8, 4, 1,
   0x60010, 1, 17, 3, 3, 3,
   0x60010, 0, 17, 2, 2, 2]

def groupModule : Module where
  header := ⟨0x10000, 0, 2, 0⟩
  ids := ⟨#[{ localSize? := some ⟨2, 2, 2⟩ }, { localSize? := some ⟨3, 3, 3⟩ }]⟩
  entryPoint? := none

theorem decode_without_entryPoint_sized :
    (decode groupWords).result = .ok groupModule ∧
      groupModule.entryPoint = ⟨.unknown, 0, "main", []⟩ ∧
      groupModule.localSize? = some ⟨2, 2, 2⟩ := by
  have hdecode : (decode groupWords).result = .ok groupModule := by decide +kernel
  obtain ⟨body, frames, hread, hsplit, hrest⟩ := decode_without_entryPoint hdecode
  have hbody : (Header.read groupWords).result =
      .ok (groupModule.header, groupWords.drop 5) := rfl
  have hframes : Frame.split Header.size (groupWords.drop 5) =
      ([⟨16, [0, 17, 8, 4, 1]⟩, ⟨16, [1, 17, 3, 3, 3]⟩, ⟨16, [0, 17, 2, 2, 2]⟩], none) := by
    decide +kernel
  cases hbody.symm.trans hread
  cases hframes.symm.trans hsplit
  obtain ⟨-, hpoint, hsize, -⟩ := hrest (by decide)
  exact ⟨hdecode, hpoint, hsize.trans (by decide)⟩

def orphanSizeWords : List UInt32 :=
  [Header.magic, 0x10000, 0, 1, 0, 0x60010, 0, 17, 8, 4, 1]

def orphanSizeModule : Module where
  header := ⟨0x10000, 0, 1, 0⟩
  ids := ⟨#[{ localSize? := some ⟨8, 4, 1⟩ }]⟩
  entryPoint? := none

/-- The default entry point has a size here, though no instruction declares an entry point. -/
theorem orphan_size_is_taken :
    (decode orphanSizeWords).result = .ok orphanSizeModule ∧
      Frame.split Header.size (orphanSizeWords.drop 5) = ([⟨16, [0, 17, 8, 4, 1]⟩], none) ∧
      orphanSizeModule.entryPoint? = none ∧ orphanSizeModule.localSize? = some ⟨8, 4, 1⟩ := by
  decide +kernel

end Module

end ShaderInterface
