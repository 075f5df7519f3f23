import ShaderInterface.Module.Decode

namespace ShaderInterface

/-- The numbers of the instructions that say something about the interface. -/
def Instruction.handledCodes : List UInt16 :=
  [5, 6, 15, 16, 19, 20, 21, 22, 23, 24, 25, 26, 27, 28, 30, 32, 43, 44, 59, 71, 72]

namespace Frame

theorem reading?_isSome_iff (f : Frame) :
    f.reading?.isSome ↔ f.opcode ∈ Instruction.handledCodes := by
  obtain ⟨opcode, operands⟩ := f
  constructor
  · intro h
    obtain ⟨read, hread⟩ := Option.isSome_iff_exists.1 h
    obtain ⟨name, hname, hsome⟩ := Option.bind_eq_some_iff.1 hread
    have hcode := (Numbered.ofCode?_eq_some_iff.1 hname).2
    have hopcode : opcode = UInt16.ofNat (Numbered.code name).toNat := by
      rw [hcode, Int.toNat_natCast, UInt16.ofNat_toNat]
    change opcode ∈ Instruction.handledCodes
    rw [hopcode]
    cases name <;> first
      | decide
      | exact nomatch (show (none : Option (Reading Instruction)) = some read from hsome)
  · intro h
    simp only [Instruction.handledCodes, List.mem_cons, List.not_mem_nil, or_false] at h
    rcases h with rfl | rfl | rfl | rfl | rfl | rfl | rfl | rfl | rfl | rfl | rfl | rfl | rfl |
      rfl | rfl | rfl | rfl | rfl | rfl | rfl | rfl <;> rfl

end Frame

end ShaderInterface
