import ShaderInterface.Instruction.Frame

namespace ShaderInterface

namespace Numbered

variable {α : Type} [Numbered α]

def word (a : α) : UInt32 :=
  UInt32.ofNat (code a).toNat

def ofWord? (w : UInt32) : Option α :=
  members.find? fun a => code a == (w.toNat : Int)

/-- The member that a word spells; any other word stands for `unknown`. -/
def ofWord (unknown : α) (w : UInt32) : α :=
  (ofWord? w).getD unknown

theorem ofCode?_toNat (w : UInt32) : (ofCode? w.toNat : Option α) = ofWord? w := by
  rw [ofCode?, if_neg (by omega), ofWord?]

theorem result_decodeOpen (numbering : OpenNumbering) (unknown : α) (w : UInt32) :
    (decodeOpen numbering unknown w.toNat).result = .ok (ofWord unknown w) := by
  rw [decodeOpen, ofCode?_toNat, ofWord]
  cases (ofWord? w : Option α) <;> rfl

theorem decodeClosed_eq_ok_iff {numbering : ClosedNumbering} {w : UInt32} {a : α} :
    decodeClosed numbering w.toNat = .ok a ↔ ofWord? w = some a := by
  rw [decodeClosed, ofCode?_toNat]
  cases (ofWord? w : Option α) <;> simp

theorem ofWord?_word {a : α} (h : (word a).toNat = code a) : ofWord? (word a) = some a := by
  rw [← ofCode?_toNat, h]
  exact ofCode?_eq_some_iff.2 ⟨by rw [← h]; exact Int.natCast_nonneg _, rfl⟩

end Numbered

namespace Opcode

/-- The number in an instruction's first word. -/
def number (opcode : Opcode) : UInt16 :=
  UInt16.ofNat (Numbered.code opcode).toNat

theorem ofCode?_number (opcode : Opcode) :
    Numbered.ofCode? opcode.number.toNat = some opcode := by
  rw [Numbered.ofCode?_eq_some_iff]
  cases opcode <;> decide

theorem eq_number_of_ofCode? {number : UInt16} {opcode : Opcode}
    (h : Numbered.ofCode? number.toNat = some opcode) : number = opcode.number := by
  have hcode := (Numbered.ofCode?_eq_some_iff.1 h).2
  rw [Opcode.number, hcode, Int.toNat_natCast, UInt16.ofNat_toNat]

theorem eq_of_toNat_number_eq {opcode opcode' : Opcode}
    (h : opcode.number.toNat = opcode'.number.toNat) : opcode = opcode' := by
  have hcode := ofCode?_number opcode
  rw [h, ofCode?_number opcode'] at hcode
  exact (Option.some.inj hcode).symm

end Opcode

namespace Utf8

/-- The text that words hold up to the first zero byte. -/
def textOf (words : List UInt32) : String :=
  decode ((words.flatMap Word.bytes).takeWhile (· != 0))

/-- The words behind the one with the first zero byte. -/
def behindText (words : List UInt32) : List UInt32 :=
  words.drop (((words.flatMap Word.bytes).takeWhile (· != 0)).length / 4 + 1)

end Utf8

open Numbered Utf8

def AccessQualifier.spelled? : List UInt32 → Option (Option AccessQualifier)
  | [] => some none
  | w :: _ => (ofWord? w).map some

/-- The type that a number and the operands behind the target spell. -/
def TypeDecl.spelled? : Nat → List UInt32 → Option TypeDecl
  | 19, _ => some .void
  | 20, _ => some .bool
  | 21, width :: signed :: _ => some (.int width (signed == 1))
  | 22, width :: _ => some (.float width)
  | 23, component :: count :: _ => some (.vector component count)
  | 24, column :: count :: _ => some (.matrix column count)
  | 25, sampledType :: dimension :: depth :: arrayed :: multisampled :: sampled :: format :: rest =>
    return .image ⟨sampledType, ← ofWord? dimension, depth == 1, arrayed == 1, multisampled == 1,
      sampled == 1, ← ofWord? format, ← AccessQualifier.spelled? rest⟩
  | 26, _ => some .sampler
  | 27, target :: _ => some (.sampledImage target)
  | 28, element :: length :: _ => some (.array element length)
  | 30, members => some (.struct members)
  | 32, storage :: target :: _ => some (.pointer (ofWord .unknown storage) target)
  | _, _ => none

namespace Instruction

/-- What an execution mode spells; mode 17 gives a work group size. -/
def spelledMode? (function mode : UInt32) (literals : List UInt32) : Option Instruction :=
  if mode = 17 then
    match literals with
    | x :: y :: z :: _ => some (.localSize function ⟨x, y, z⟩)
    | _ => none
  else some (.otherMode function mode)

/-- The instruction that a number and operands spell. -/
def spelled? : Nat → List UInt32 → Option Instruction
  | 5, target :: text => some (.name target (textOf text))
  | 6, target :: member :: text => some (.memberName target member (textOf text))
  | 15, model :: function :: rest =>
    some (.entryPoint ⟨ofWord .unknown model, function, textOf rest, behindText rest⟩)
  | 16, function :: mode :: literals => spelledMode? function mode literals
  | 43, type :: target :: values | 44, type :: target :: values =>
    some (.declareConstant target ⟨type, values⟩)
  | 59, type :: target :: storage :: initializer =>
    some (.declareVariable target ⟨type, ofWord .unknown storage, initializer⟩)
  | 71, target :: kind :: literals =>
    some (.decorate target ⟨ofWord .unknown kind, literals.map fun w => (w.toNat : Int)⟩)
  | 72, target :: member :: kind :: literals =>
    some (.memberDecorate target member
      ⟨ofWord .unknown kind, literals.map fun w => (w.toNat : Int)⟩)
  | number, target :: rest => (TypeDecl.spelled? number rest).map (.declareType target)
  | _, _ => none

end Instruction

def Frame.spelled? (f : Frame) : Option Instruction :=
  Instruction.spelled? f.opcode.toNat f.operands

end ShaderInterface
