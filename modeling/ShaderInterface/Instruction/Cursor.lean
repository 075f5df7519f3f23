import ShaderInterface.Fault
import ShaderInterface.Text.Utf8

namespace ShaderInterface

/-- A place among the operands of one instruction. `position` counts the words before it, the
first word of the instruction included. -/
structure Cursor where
  opcode : UInt16
  bound : Int
  position : Nat
  rest : List UInt32
  deriving DecidableEq

/-- Reads an operand. A refused operand leaves the cursor where the reading stopped. -/
abbrev Operand (α : Type) := Cursor → Except Fault α × Cursor

namespace Cursor

/-- In front of the operands of an instruction whose ids lie below `bound`. -/
def start (bound : Int) : List UInt32 → Except Fault Cursor
  | [] => .error .noOpcode
  | head :: operands => .ok ⟨head.toUInt16, bound, 1, operands⟩

def skip (c : Cursor) (n : Nat) : Cursor :=
  { c with position := c.position + n, rest := c.rest.drop n }

def hasRemaining (c : Cursor) : Bool :=
  !c.rest.isEmpty

end Cursor

namespace Operand

variable {α β : Type}

def check (read : Operand α) (judge : Cursor → α → Except Fault β) : Operand β := fun c =>
  ((read c).1.bind (judge c), (read c).2)

def word : Operand UInt32 := fun c =>
  match c.rest with
  | [] => (.error (.missingOperand c.opcode), c)
  | w :: _ => (.ok w, c.skip 1)

def flag : Operand Bool :=
  check word fun _ w => .ok (w == 1)

def judgeId (c : Cursor) (id : UInt32) : Except Fault UInt32 :=
  if (id.toNat : Int) < c.bound then .ok id else .error (.idOperandOutOfBounds c.opcode id c.bound)

def id : Operand UInt32 :=
  check word judgeId

def memberLimit : UInt32 := 0xFFFF - 2

def judgeMember (c : Cursor) (member : UInt32) : Except Fault UInt32 :=
  if member < memberLimit then .ok member else .error (.memberOperandOutOfRange c.opcode member)

def member : Operand UInt32 :=
  check word judgeMember

/-- All words that remain. -/
def literals : Operand (List UInt32) := fun c =>
  (.ok c.rest, c.skip c.rest.length)

/-- All words that remain, as ids; stops behind the first that is none. -/
def ids : Operand (List UInt32) := fun c =>
  let good := c.rest.takeWhile fun id => (id.toNat : Int) < c.bound
  match c.rest.drop good.length with
  | [] => (.ok good, c.skip good.length)
  | bad :: _ => (.error (.idOperandOutOfBounds c.opcode bad c.bound), c.skip (good.length + 1))

/-- Text up to the first zero byte, and the words that hold it; without a zero byte, all words. -/
def text : Operand String := fun c =>
  let bytes := c.rest.flatMap Word.bytes
  let content := bytes.takeWhile (· != 0)
  (.ok (Utf8.decode content), c.skip (min (content.length / 4 + 1) c.rest.length))

end Operand

end ShaderInterface
