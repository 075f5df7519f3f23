import ShaderInterface.Proofs.ComposedReadings
import ShaderInterface.Proofs.Framing
import ShaderInterface.Proofs.Program
import ShaderInterface.Proofs.Settles

namespace ShaderInterface

namespace Reading

variable {α β : Type}

/-- Wherever the reading begins, only the words are to blame if it fails. -/
def BlamesWords (read : Reading α) : Prop :=
  ∀ c, Settles (read c).result (fun _ => True) Fault.Unreadable

namespace BlamesWords

theorem pure (a : α) : BlamesWords (Pure.pure a) :=
  fun _ => .ok trivial

theorem bind {read : Reading α} {next : α → Reading β} (h : BlamesWords read)
    (hnext : ∀ a, BlamesWords (next a)) : BlamesWords (read >>= next) :=
  fun c => (h c).result_bind fun p _ => hnext p.1 p.2

theorem lift {x : Traced α} (h : Settles x.result (fun _ => True) Fault.Unreadable) :
    BlamesWords (liftM x : Reading α) :=
  fun _ => h.result_bind fun _ _ => .ok trivial

theorem take {read : Operand α} (h : ∀ c, Settles (read c).1 (fun _ => True) Fault.Unreadable) :
    BlamesWords (Reading.take read) := by
  intro c
  have hc := h c
  rw [Reading.take]
  generalize read c = outcome at hc
  obtain ⟨_ | _, _⟩ := outcome
  · exact hc
  · exact .ok trivial

theorem operand_word (c : Cursor) :
    Settles (Operand.word c).1 (fun _ => True) Fault.Unreadable := by
  rw [Operand.word]
  cases c.rest with
  | nil => exact .error (.head _)
  | cons w rest => exact .ok trivial

theorem operand_check {read : Operand α} {judge : Cursor → α → Except Fault β} {c : Cursor}
    (h : Settles (read c).1 (fun _ => True) Fault.Unreadable)
    (hjudge : ∀ a, Settles (judge c a) (fun _ => True) Fault.Unreadable) :
    Settles (Operand.check read judge c).1 (fun _ => True) Fault.Unreadable :=
  h.bind fun a _ => hjudge a

theorem word : BlamesWords Reading.word := take operand_word

theorem flag : BlamesWords Reading.flag :=
  take fun c => operand_check (operand_word c) fun _ => .ok trivial

theorem id : BlamesWords Reading.id := by
  refine take fun c => operand_check (operand_word c) fun w => ?_
  rw [Operand.judgeId]
  split
  · exact .ok trivial
  · exact .error (.head _)

theorem member : BlamesWords Reading.member := by
  refine take fun c => operand_check (operand_word c) fun w => ?_
  rw [Operand.judgeMember]
  split
  · exact .ok trivial
  · exact .error (.head _)

theorem ids : BlamesWords Reading.ids := by
  refine take fun c => ?_
  simp only [Operand.ids]
  split
  · exact .ok trivial
  · exact .error (.head _)

theorem literals : BlamesWords Reading.literals := take fun _ => .ok trivial

theorem text : BlamesWords Reading.text := take fun _ => .ok trivial

theorem hasRemaining : BlamesWords Reading.hasRemaining := fun _ => .ok trivial

end BlamesWords

theorem Composed.blamesWords {read : Reading α} (h : Composed read) : BlamesWords read := by
  induction h with
  | pure a => exact .pure a
  | bind _ _ ih ihnext => exact ih.bind ihnext
  | lift h _ => exact .lift h
  | word => exact .word
  | flag => exact .flag
  | id => exact .id
  | member => exact .member
  | ids => exact .ids
  | literals => exact .literals
  | text => exact .text
  | hasRemaining => exact .hasRemaining

end Reading

namespace Frame

theorem settles_read (bound : Nat) (f : Frame) :
    Settles (f.read bound) (fun _ => True) Fault.Unreadable := by
  cases hreading : f.reading? with
  | none =>
    rw [read_of_reading?_eq_none hreading]
    exact .ok trivial
  | some reading =>
    obtain ⟨opcode, -, hread⟩ := Option.bind_eq_some_iff.1 hreading
    rw [read_of_reading?_eq_some hreading]
    exact ((Instruction.composed_reading hread).blamesWords (f.cursor bound)).map fun _ _ => trivial

theorem settles_readAll (bound : Nat) (frames : List Frame) :
    Settles (readAll bound frames) (fun _ => True) Fault.Unreadable := by
  induction frames with
  | nil => exact .ok trivial
  | cons f rest ih =>
    rw [readAll]
    have h := settles_read bound f
    cases hread : f.read bound with
    | error fault => exact .error (h.of_eq_error hread)
    | ok i? => exact ih.map fun _ _ => trivial

theorem unreadable_of_split {index : Nat} {words : List UInt32} {fault : Fault}
    (h : (split index words).2 = some fault) : fault.Unreadable := by
  obtain ⟨chunks, rest, hcut, hstuck⟩ := exists_cut words
  rw [split_of_cut hcut hstuck] at h
  obtain ⟨head, -, rfl⟩ := Option.map_eq_some_iff.1 h
  rw [Fault.Unreadable, category_framingFault]
  exact .head _

end Frame

namespace Header

theorem settles_read (words : List UInt32) :
    Settles (read words).result (fun _ => True) Fault.Unreadable := by
  match words with
  | first :: version :: generator :: bound :: schema :: body =>
    rw [read]
    split
    · exact .ok trivial
    · split
      · exact .ok trivial
      · exact .error (.head _)
  | [] | [_] | [_, _] | [_, _, _] | [_, _, _, _] => exact .error (.head _)

end Header

namespace Module

theorem settles_program (words : List UInt32) :
    Settles (program words) (fun _ => True) Fault.Unreadable := by
  rw [program]
  cases hheader : (Header.read words).result with
  | error fault => exact .error ((Header.settles_read words).of_eq_error hheader)
  | ok p =>
    dsimp only
    have hframes := Frame.settles_readAll p.1.bound.toNat (Frame.split Header.size p.2).1
    cases hread : Frame.readAll p.1.bound.toNat (Frame.split Header.size p.2).1 with
    | error fault => exact .error (hframes.of_eq_error hread)
    | ok instructions =>
      cases hrest : (Frame.split Header.size p.2).2 with
      | none => exact .ok trivial
      | some fault => exact .error (Frame.unreadable_of_split hrest)

theorem settles_decode (words : List UInt32) :
    Settles (decode words).result (fun _ => True) Fault.Unreadable := by
  rw [result_decode]
  exact (settles_program words).map fun _ _ => trivial

end Module

end ShaderInterface
