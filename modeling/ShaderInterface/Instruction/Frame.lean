import ShaderInterface.Instruction.Read

namespace ShaderInterface

/-- An instruction cut out of a module: its number and its operand words. -/
structure Frame where
  opcode : UInt16
  operands : List UInt32
  deriving DecidableEq

namespace Frame

/-- The frames of consecutive instructions from word `index` on, up to the first that cannot be
cut out. The high half of an instruction's first word counts its words, that one included. -/
def split (index : Nat) : List UInt32 → List Frame × Option Fault
  | [] => ([], none)
  | head :: rest =>
    let count := (head >>> 16).toNat
    let operands := rest.take (count - 1)
    if count = 0 then ([], some (.emptyInstruction index))
    else if operands.length + 1 < count then ([], some (.instructionOverrun index count))
    else
      let (frames, fault?) := split (index + count) (rest.drop (count - 1))
      (⟨head.toUInt16, operands⟩ :: frames, fault?)
termination_by words => words.length
decreasing_by rw [List.length_drop, List.length_cons]; omega

def reading? (f : Frame) : Option (Reading Instruction) := do
  Instruction.reading? (← Numbered.ofCode? f.opcode.toNat)

def cursor (f : Frame) (bound : Nat) : Cursor :=
  ⟨f.opcode, bound, 1, f.operands⟩

/-- The instruction in a frame, if it is one that says something about the interface. Operands
behind the last that it uses are ignored. -/
def instruction? (f : Frame) (bound : Nat) : Traced (Option Instruction) :=
  match f.reading? with
  | none => return none
  | some read => return some (← read.run' (f.cursor bound))

end Frame

end ShaderInterface
