import Mathlib.Data.List.TakeWhile
import ShaderInterface.Proofs.PackedText
import ShaderInterface.Proofs.Spelling

namespace ShaderInterface

namespace Reading

variable {α β : Type}

/-- In an instruction whose ids lie below `bound`, the words `input` begin with a spelling of `a`,
and `rest` is what stands behind it. -/
def Reads (bound : Int) (read : Reading α) (input : List UInt32) (a : α) (rest : List UInt32) :
    Prop :=
  ∀ opcode position, ∃ position',
    (read ⟨opcode, bound, position, input⟩).result = .ok (a, ⟨opcode, bound, position', rest⟩)

namespace Reads

variable {bound : Int} {input middle rest : List UInt32}

theorem pure (a : α) : Reads bound (Pure.pure a) input a input :=
  fun _ position => ⟨position, rfl⟩

theorem bind {read : Reading α} {next : α → Reading β} {a : α} {b : β}
    (h : Reads bound read input a middle) (h' : Reads bound (next a) middle b rest) :
    Reads bound (read >>= next) input b rest := by
  intro opcode position
  obtain ⟨between, hread⟩ := h opcode position
  obtain ⟨position', hnext⟩ := h' opcode between
  refine ⟨position', ?_⟩
  change (read ⟨opcode, bound, position, input⟩ >>= fun p => next p.1 p.2).result = _
  rw [Traced.result_bind, hread]
  exact hnext

theorem lift {x : Traced α} {a : α} (h : x.result = .ok a) :
    Reads bound (liftM x : Reading α) input a input := by
  intro opcode position
  refine ⟨position, ?_⟩
  change (x >>= fun a => (Pure.pure (a, _) : Traced (α × Cursor))).result = _
  rw [Traced.result_bind, h]
  rfl

theorem take {read : Operand α} {a : α} (h : ∀ opcode position, ∃ position',
    read ⟨opcode, bound, position, input⟩ = (.ok a, ⟨opcode, bound, position', rest⟩)) :
    Reads bound (Reading.take read) input a rest := by
  intro opcode position
  obtain ⟨position', hread⟩ := h opcode position
  refine ⟨position', ?_⟩
  rw [Reading.take, hread]
  rfl

theorem word (w : UInt32) (rest : List UInt32) : Reads bound Reading.word (w :: rest) w rest :=
  take fun _ position => ⟨position + 1, rfl⟩

theorem flag (w : UInt32) (rest : List UInt32) :
    Reads bound Reading.flag (w :: rest) (w == 1) rest :=
  take fun _ position => ⟨position + 1, rfl⟩

theorem id {w : UInt32} (h : (w.toNat : Int) < bound) (rest : List UInt32) :
    Reads bound Reading.id (w :: rest) w rest := by
  refine take fun opcode position => ⟨position + 1, ?_⟩
  simp only [Operand.id, Operand.check, Operand.word, Except.bind, Operand.judgeId, if_pos h]
  rfl

theorem member {w : UInt32} (h : w < Operand.memberLimit) (rest : List UInt32) :
    Reads bound Reading.member (w :: rest) w rest := by
  refine take fun opcode position => ⟨position + 1, ?_⟩
  simp only [Operand.member, Operand.check, Operand.word, Except.bind, Operand.judgeMember,
    if_pos h]
  rfl

theorem literals (words : List UInt32) : Reads bound Reading.literals words words [] := by
  refine take fun opcode position => ⟨position + words.length, ?_⟩
  simp only [Operand.literals, Cursor.skip, List.drop_length]

theorem ids {words : List UInt32} (h : ∀ w ∈ words, (w.toNat : Int) < bound) :
    Reads bound Reading.ids words words [] := by
  refine take fun opcode position => ⟨position + words.length, ?_⟩
  have hgood : words.takeWhile (fun w => decide ((w.toNat : Int) < bound)) = words :=
    List.takeWhile_eq_self_iff.2 fun w hw => decide_eq_true (h w hw)
  simp only [Operand.ids, hgood, List.drop_length, Cursor.skip]

theorem text {text : String} (h : '\x00' ∉ text.toList) (rest : List UInt32) :
    Reads bound Reading.text (Utf8.pack text ++ rest) text rest :=
  take fun opcode position => ⟨_, Operand.text_pack h opcode bound position rest⟩

theorem hasRemaining (words : List UInt32) :
    Reads bound Reading.hasRemaining words (!words.isEmpty) words :=
  fun _ position => ⟨position, rfl⟩

theorem word_lift {judge : UInt32 → Traced α} {w : UInt32} {a : α} (h : (judge w).result = .ok a)
    (rest : List UInt32) :
    Reads bound (Reading.word >>= fun w => liftM (judge w)) (w :: rest) a rest :=
  (word w rest).bind (lift h)

theorem executionModel (w : UInt32) (rest : List UInt32) :
    Reads bound Reading.executionModel (w :: rest) (Numbered.ofWord .unknown w) rest :=
  word_lift (Numbered.result_decodeOpen _ _ w) rest

theorem storageClass (w : UInt32) (rest : List UInt32) :
    Reads bound Reading.storageClass (w :: rest) (Numbered.ofWord .unknown w) rest :=
  word_lift (Numbered.result_decodeOpen _ _ w) rest

theorem dimension (d : Dimension) (rest : List UInt32) :
    Reads bound Reading.dimension (Numbered.word d :: rest) d rest :=
  word_lift (Numbered.decodeClosed_eq_ok_iff.2 (Numbered.ofWord?_word (by cases d <;> rfl))) rest

theorem imageFormat (f : ImageFormat) (rest : List UInt32) :
    Reads bound Reading.imageFormat (Numbered.word f :: rest) f rest :=
  word_lift (Numbered.decodeClosed_eq_ok_iff.2 (Numbered.ofWord?_word (by cases f <;> rfl))) rest

theorem accessQualifier? (access? : Option AccessQualifier) :
    Reads bound Reading.accessQualifier? (access?.toList.map Numbered.word) access? [] := by
  refine (hasRemaining _).bind ?_
  cases access? with
  | none => exact pure none
  | some q =>
    have h : (AccessQualifier.decode (Numbered.word q).toNat) = .ok q :=
      Numbered.decodeClosed_eq_ok_iff.2 (Numbered.ofWord?_word (by cases q <;> rfl))
    exact (word _ []).bind ((lift h).bind (pure (some q)))

theorem decoration (kind : UInt32) (words : List UInt32) :
    Reads bound Reading.decoration (kind :: words)
      ⟨Numbered.ofWord .unknown kind, words.map fun w => (w.toNat : Int)⟩ [] :=
  (word_lift (Numbered.result_decodeOpen _ _ kind) words).bind ((literals words).bind (pure _))

theorem localSize (x y z : UInt32) (rest : List UInt32) :
    Reads bound Reading.localSize (x :: y :: z :: rest) ⟨x, y, z⟩ rest :=
  (word x _).bind ((word y _).bind ((word z _).bind (pure _)))

end Reads

end Reading

end ShaderInterface
