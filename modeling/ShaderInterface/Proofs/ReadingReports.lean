import ShaderInterface.Proofs.ComposedReadings
import ShaderInterface.Proofs.Program

namespace ShaderInterface

variable {α β : Type}

namespace Traced

theorem mem_log_bind {x : Traced α} {f : α → Traced β} {e : Event} (h : e ∈ (x >>= f).log) :
    e ∈ x.log ∨ ∃ a, x.result = .ok a ∧ e ∈ (f a).log := by
  cases hx : x.result with
  | ok a =>
    rw [bind_of_ok hx] at h
    exact (List.mem_append.1 h).imp_right fun he => ⟨a, rfl, he⟩
  | error fault =>
    rw [bind_of_error hx] at h
    exact .inl h

theorem Quiet.bind {x : Traced α} {f : α → Traced β} (h : x.Quiet) (hf : ∀ a, (f a).Quiet) :
    (x >>= f).Quiet := by
  intro e he
  rcases mem_log_bind he with he | ⟨a, -, he⟩
  · exact h e he
  · exact hf a e he

theorem Quiet.filter_log {x : Traced α} (h : x.Quiet) :
    x.log.filter (!·.isUnknownCode) = [] := by
  apply List.filter_eq_nil_iff.2
  intro e he
  simp [h e he]

end Traced

namespace Reading

theorem quiet_take (read : Operand α) (c : Cursor) : (take read c).Quiet := by
  unfold take
  split <;> exact Traced.quiet_of_log_eq_nil rfl

theorem Composed.quiet {read : Reading α} (h : Composed read) (c : Cursor) : (read c).Quiet := by
  induction h generalizing c with
  | pure => exact Traced.quiet_of_log_eq_nil rfl
  | bind _ _ ih ihnext => exact (ih c).bind fun p => ihnext p.1 p.2
  | lift _ hquiet => exact hquiet.bind fun _ => Traced.quiet_of_log_eq_nil rfl
  | hasRemaining => exact Traced.quiet_of_log_eq_nil rfl
  | _ => exact quiet_take _ c

end Reading

/-- Reading an instruction reports nothing but unknown codes, also where it fails. -/
theorem Frame.quiet_instruction? (f : Frame) (bound : Nat) : (f.instruction? bound).Quiet := by
  rw [instruction?]
  cases hreading : f.reading? with
  | none => exact Traced.quiet_of_log_eq_nil rfl
  | some read =>
    obtain ⟨opcode, -, hread⟩ := Option.bind_eq_some_iff.1 hreading
    have hquiet := (Instruction.composed_reading hread).quiet (f.cursor bound)
    apply Traced.Quiet.bind
    · exact hquiet.bind fun _ => Traced.quiet_of_log_eq_nil rfl
    · exact fun _ => Traced.quiet_of_log_eq_nil rfl

namespace Module

/-- What is reported about earlier instructions that a run of instructions replaces. -/
def noticesOf (m : Module) : List Instruction → List Event
  | [] => []
  | i :: rest => m.notices i ++ (m.apply i).noticesOf rest

theorem filter_notices (m : Module) (i : Instruction) :
    (m.notices i).filter (!·.isUnknownCode) = m.notices i := by
  unfold notices
  split
  · split <;> rfl
  · split <;> rfl
  · split <;> rfl
  · split <;> rfl
  · rfl

theorem log_absorb {bound : Nat} {f : Frame} {i? : Option Instruction}
    (h : f.read bound = .ok i?) (m : Module) :
    (absorb bound m f).log.filter (!·.isUnknownCode) = i?.elim [] m.notices := by
  rw [absorb, Traced.bind_of_ok h, List.filter_append, (f.quiet_instruction? bound).filter_log,
    List.nil_append]
  cases i? with
  | none => rfl
  | some i =>
    rw [Option.elim_some, ← filter_notices m i]
    simp [Traced.report, Traced.bind_of_ok]

/-- But for unknown codes, a run reports what its instructions replace. -/
theorem log_foldlM_absorb {bound : Nat} {frames : List Frame} {is : List Instruction}
    (h : Frame.readAll bound frames = .ok is) (m : Module) :
    (frames.foldlM (absorb bound) m).log.filter (!·.isUnknownCode) = m.noticesOf is := by
  induction frames generalizing m is with
  | nil =>
    cases h
    rfl
  | cons f rest ih =>
    obtain ⟨i?, others, hread, hothers, he⟩ := Frame.exists_of_readAll_cons h
    have hstep : (absorb bound m f).result = .ok (i?.toList.foldl apply m) := by
      rw [result_absorb, hread]
      rfl
    rw [List.foldlM_cons, Traced.bind_of_ok hstep, List.filter_append, log_absorb hread,
      ih hothers, he]
    cases i? <;> rfl

end Module

end ShaderInterface
