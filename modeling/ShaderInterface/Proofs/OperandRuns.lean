import Mathlib.Data.List.Chain
import ShaderInterface.Proofs.TextOperand

namespace ShaderInterface.Operand

theorem ids_of_forall_lt {c : Cursor} (h : ∀ id ∈ c.rest, (id.toNat : Int) < c.bound) :
    ids c = (.ok c.rest, c.skip c.rest.length) := by
  have hgood : c.rest.takeWhile (fun id => decide ((id.toNat : Int) < c.bound)) = c.rest :=
    List.takeWhile_eq_self_iff.2 fun id hid => decide_eq_true (h id hid)
  simp only [ids, hgood, List.drop_length]

/-- The first word that is no id is taken as well. -/
theorem ids_of_bad {good rest : List UInt32} {bad : UInt32} {bound : Int}
    (hgood : ∀ id ∈ good, (id.toNat : Int) < bound) (hbad : bound ≤ bad.toNat) (opcode : UInt16)
    (p : Nat) :
    ids ⟨opcode, bound, p, good ++ bad :: rest⟩ =
      (.error (.idOperandOutOfBounds opcode bad bound),
        ⟨opcode, bound, p + (good.length + 1), rest⟩) := by
  have htake : (good ++ bad :: rest).takeWhile (fun id => decide ((id.toNat : Int) < bound)) =
      good := by
    rw [List.takeWhile_append_of_pos fun id hid => decide_eq_true (hgood id hid)]
    simp [hbad]
  simp [ids, htake, Cursor.skip]

/-- What a reader of operands can be asked for. -/
inductive Call
  | word
  | flag
  | id
  | member
  | ids
  | literals
  | text
  | hasRemaining
  deriving DecidableEq

namespace Call

abbrev Answer : Call → Type
  | word | id | member => UInt32
  | flag | hasRemaining => Bool
  | ids | literals => List UInt32
  | text => String

def read : (call : Call) → Operand call.Answer
  | word => Operand.word
  | flag => Operand.flag
  | id => Operand.id
  | member => Operand.member
  | ids => Operand.ids
  | literals => Operand.literals
  | text => Operand.text
  | hasRemaining => fun c => (.ok c.hasRemaining, c)

/-- The words that a call takes of those that remain, and what it answers. -/
inductive Takes (opcode : UInt16) (bound : Int) :
    (call : Call) → (remaining taken : List UInt32) → Except Fault call.Answer → Prop
  | word (w : UInt32) (rest : List UInt32) : Takes opcode bound .word (w :: rest) [w] (.ok w)
  | noWord : Takes opcode bound .word [] [] (.error (.missingOperand opcode))
  | flag (w : UInt32) (rest : List UInt32) :
      Takes opcode bound .flag (w :: rest) [w] (.ok (w == 1))
  | noFlag : Takes opcode bound .flag [] [] (.error (.missingOperand opcode))
  | id {w : UInt32} (rest : List UInt32) (h : (w.toNat : Int) < bound) :
      Takes opcode bound .id (w :: rest) [w] (.ok w)
  | badId {w : UInt32} (rest : List UInt32) (h : bound ≤ w.toNat) :
      Takes opcode bound .id (w :: rest) [w] (.error (.idOperandOutOfBounds opcode w bound))
  | noId : Takes opcode bound .id [] [] (.error (.missingOperand opcode))
  | member {w : UInt32} (rest : List UInt32) (h : w.toNat < 65533) :
      Takes opcode bound .member (w :: rest) [w] (.ok w)
  | badMember {w : UInt32} (rest : List UInt32) (h : 65533 ≤ w.toNat) :
      Takes opcode bound .member (w :: rest) [w] (.error (.memberOperandOutOfRange opcode w))
  | noMember : Takes opcode bound .member [] [] (.error (.missingOperand opcode))
  | ids {words : List UInt32} (h : ∀ w ∈ words, (w.toNat : Int) < bound) :
      Takes opcode bound .ids words words (.ok words)
  | badIds {good : List UInt32} {bad : UInt32} (rest : List UInt32)
      (hgood : ∀ w ∈ good, (w.toNat : Int) < bound) (hbad : bound ≤ bad.toNat) :
      Takes opcode bound .ids (good ++ bad :: rest) (good ++ [bad])
        (.error (.idOperandOutOfBounds opcode bad bound))
  | literals (words : List UInt32) : Takes opcode bound .literals words words (.ok words)
  | text {content garbage : List UInt8} {packed : List UInt32} (rest : List UInt32)
      (hcontent : 0 ∉ content) (hgarbage : garbage.length < 4)
      (hbytes : packed.flatMap Word.bytes = content ++ 0 :: garbage) :
      Takes opcode bound .text (packed ++ rest) packed (.ok (Utf8.decode content))
  | openText {words : List UInt32} (h : 0 ∉ words.flatMap Word.bytes) :
      Takes opcode bound .text words words (.ok (Utf8.decode (words.flatMap Word.bytes)))
  | hasRemaining (words : List UInt32) :
      Takes opcode bound .hasRemaining words [] (.ok (!words.isEmpty))

theorem Takes.isPrefix {call : Call} {opcode : UInt16} {bound : Int}
    {remaining taken : List UInt32} {answer : Except Fault call.Answer}
    (h : call.Takes opcode bound remaining taken answer) :
    taken <+: remaining := by
  cases h with
  | badIds rest => exact ⟨rest, by simp⟩
  | text rest => exact ⟨rest, rfl⟩
  | _ => simp

/-- One call: it passes the words that it takes, and no more. -/
theorem exists_takes (call : Call) (opcode : UInt16) (bound : Int) (p : Nat)
    (words : List UInt32) :
    ∃ taken, (call.read ⟨opcode, bound, p, words⟩).2 =
        Cursor.skip ⟨opcode, bound, p, words⟩ taken.length ∧
      call.Takes opcode bound words taken (call.read ⟨opcode, bound, p, words⟩).1 := by
  cases call with
  | word =>
    cases words with
    | nil => exact ⟨[], rfl, .noWord⟩
    | cons w rest => exact ⟨[w], rfl, .word w rest⟩
  | flag =>
    cases words with
    | nil => exact ⟨[], rfl, .noFlag⟩
    | cons w rest => exact ⟨[w], rfl, .flag w rest⟩
  | id =>
    cases words with
    | nil => exact ⟨[], rfl, .noId⟩
    | cons w rest =>
      refine ⟨[w], rfl, ?_⟩
      change Takes opcode bound .id _ _ (judgeId _ w)
      rw [judgeId]
      split_ifs with h
      · exact .id rest h
      · exact .badId rest (Int.not_lt.1 h)
  | member =>
    cases words with
    | nil => exact ⟨[], rfl, .noMember⟩
    | cons w rest =>
      refine ⟨[w], rfl, ?_⟩
      change Takes opcode bound .member _ _ (judgeMember _ w)
      rw [judgeMember]
      split_ifs with h
      · exact .member rest (UInt32.lt_iff_toNat_lt.1 h)
      · exact .badMember rest (UInt32.le_iff_toNat_le.1 (UInt32.not_lt.1 h))
  | ids =>
    cases h : words.find? fun w => decide (bound ≤ w.toNat) with
    | none =>
      have hall : ∀ w ∈ words, (w.toNat : Int) < bound := by simpa using h
      refine ⟨words, ?_⟩
      rw [read, ids_of_forall_lt hall]
      exact ⟨rfl, .ids hall⟩
    | some bad =>
      obtain ⟨hbad, good, rest, rfl, hgood⟩ := List.find?_eq_some_iff_append.1 h
      have hgood' : ∀ w ∈ good, (w.toNat : Int) < bound := by simpa using hgood
      have hbad' : bound ≤ bad.toNat := by simpa using hbad
      refine ⟨good ++ [bad], ?_⟩
      rw [read, ids_of_bad hgood' hbad']
      exact ⟨by simp [Cursor.skip], .badIds rest hgood' hbad'⟩
  | literals => exact ⟨words, rfl, .literals words⟩
  | text =>
    by_cases h : 0 ∈ words.flatMap Word.bytes
    · obtain ⟨packed, rest, content, garbage, rfl, hcontent, hgarbage, hbytes⟩ :=
        exists_terminated h
      refine ⟨packed, ?_⟩
      rw [read, text_of_terminated hcontent hgarbage hbytes]
      exact ⟨by simp [Cursor.skip], .text rest hcontent hgarbage hbytes⟩
    · refine ⟨words, ?_⟩
      rw [read, text_of_unterminated h]
      exact ⟨by simp [Cursor.skip], .openText h⟩
  | hasRemaining => exact ⟨[], rfl, .hasRemaining words⟩

end Call

structure Step where
  call : Call
  before : Cursor
  answer : Except Fault call.Answer
  after : Cursor

def Call.step (call : Call) (c : Cursor) : Step :=
  ⟨call, c, (call.read c).1, (call.read c).2⟩

/-- Calls one after the other. A refused one ends at a place too, and the next begins there. -/
def trace : List Call → Cursor → List Step
  | [], _ => []
  | call :: rest, c => call.step c :: trace rest (call.step c).after

def behind (calls : List Call) (c : Cursor) : Cursor :=
  calls.foldl (fun c call => (call.step c).after) c

def Step.taken (words : List UInt32) (s : Step) : List UInt32 :=
  words.extract s.before.position s.after.position

/-- The call goes forward in the words of its instruction, by what it takes of them. -/
structure Step.Inside (opcode : UInt16) (bound : Int) (words : List UInt32) (s : Step) : Prop where
  before_eq : s.before = .inside opcode bound words s.before.position
  after_eq : s.after = .inside opcode bound words s.after.position
  forward : s.before.position ≤ s.after.position
  le_length : s.after.position ≤ words.length
  takes : s.call.Takes opcode bound (words.drop s.before.position) (s.taken words) s.answer

variable {opcode : UInt16} {bound : Int} {words : List UInt32} {p q r : Nat}

theorem extract_append_extract (hpq : p ≤ q) (hqr : q ≤ r) :
    words.extract p q ++ words.extract q r = words.extract p r := by
  have hlength : r - p = (q - p) + (r - q) := by omega
  have hdrop : words.drop q = (words.drop p).drop (q - p) := by
    rw [List.drop_drop, Nat.add_sub_cancel' hpq]
  rw [List.extract, List.extract, List.extract, hlength, List.take_add, hdrop]

theorem inside_step (call : Call) (hp : p ≤ words.length) :
    (call.step (.inside opcode bound words p)).Inside opcode bound words := by
  obtain ⟨taken, hafter, htakes⟩ := call.exists_takes opcode bound p (words.drop p)
  have hprefix := htakes.isPrefix
  have hle := hprefix.length_le
  rw [List.length_drop] at hle
  have hstep : (call.step (.inside opcode bound words p)).after =
      .inside opcode bound words (p + taken.length) :=
    hafter.trans (Cursor.skip_inside opcode bound words p taken.length)
  have hposition : (call.step (.inside opcode bound words p)).after.position =
      p + taken.length := congrArg Cursor.position hstep
  have htaken : (call.step (.inside opcode bound words p)).taken words = taken := by
    rw [Step.taken, hposition]
    change words.extract p (p + taken.length) = taken
    rw [List.extract, Nat.add_sub_cancel_left, ← List.prefix_iff_eq_take.1 hprefix]
  refine ⟨rfl, ?_, ?_, ?_, ?_⟩
  · rw [hposition, hstep]
  · rw [hposition]
    exact Nat.le_add_right p taken.length
  · rw [hposition]
    omega
  · rw [htaken]
    exact htakes

theorem isChain_trace (calls : List Call) (c : Cursor) :
    (trace calls c).IsChain fun s s' => s'.before = s.after := by
  induction calls generalizing c with
  | nil => exact .nil
  | cons call rest ih =>
    rw [trace, List.isChain_cons]
    refine ⟨fun s hs => ?_, ih _⟩
    cases rest with
    | nil => cases hs
    | cons next rest =>
      cases hs
      rfl

theorem inside_of_mem_trace (calls : List Call) (hp : p ≤ words.length) :
    ∀ s ∈ trace calls (.inside opcode bound words p), s.Inside opcode bound words := by
  induction calls generalizing p with
  | nil => exact List.forall_mem_nil _
  | cons call rest ih =>
    have hstep : (call.step (.inside opcode bound words p)).Inside opcode bound words :=
      inside_step call hp
    rw [trace, hstep.after_eq]
    exact List.forall_mem_cons.2 ⟨hstep, ih hstep.le_length⟩

/-- What the calls take, one after the other, are the words that they have passed. -/
theorem exists_behind (opcode : UInt16) (bound : Int) (calls : List Call)
    (hp : p ≤ words.length) :
    ∃ q, p ≤ q ∧ q ≤ words.length ∧
      behind calls (.inside opcode bound words p) = .inside opcode bound words q ∧
      (trace calls (.inside opcode bound words p)).flatMap (Step.taken words) =
        words.extract p q := by
  induction calls generalizing p with
  | nil => exact ⟨p, Nat.le_refl p, hp, rfl, by simp [trace]⟩
  | cons call rest ih =>
    have hstep : (call.step (.inside opcode bound words p)).Inside opcode bound words :=
      inside_step call hp
    obtain ⟨q, hpq, hq, hbehind, htaken⟩ := ih hstep.le_length
    rw [← hstep.after_eq] at hbehind htaken
    refine ⟨q, hstep.forward.trans hpq, hq, hbehind, ?_⟩
    rw [trace, List.flatMap_cons, htaken]
    exact extract_append_extract hstep.forward hpq

/-- A reader stays inside its instruction, whatever it is asked for and however often it fails. -/
theorem calls_stay_inside (bound : Int) (head : UInt32) (operands : List UInt32)
    (calls : List Call) :
    ∃ c, Cursor.start bound (head :: operands) = .ok c ∧ c.position = 1 ∧
      (∀ s ∈ trace calls c, s.Inside head.toUInt16 bound (head :: operands)) ∧
      (trace calls c).IsChain (fun s s' => s'.before = s.after) ∧
      1 ≤ (behind calls c).position ∧
      (behind calls c).position ≤ (head :: operands).length ∧
      (trace calls c).flatMap (Step.taken (head :: operands)) =
        (head :: operands).extract 1 (behind calls c).position := by
  have hone : 1 ≤ (head :: operands).length := Nat.le_add_left 1 _
  obtain ⟨q, hle, hq, hbehind, htaken⟩ := exists_behind head.toUInt16 bound calls hone
  refine ⟨_, Cursor.start_cons bound head operands, rfl, inside_of_mem_trace calls hone,
    isChain_trace calls _, ?_⟩
  rw [hbehind]
  exact ⟨hle, hq, htaken⟩

/-- The second word is no id and is passed; then the text is read, and no word is left. -/
example :
    (trace [.id, .id, .text, .hasRemaining, .word] ⟨15, 8, 1, [7, 9, 0x41]⟩).map
      (fun s => s.after.position) = [2, 3, 4, 4, 4] := by
  decide

end ShaderInterface.Operand
