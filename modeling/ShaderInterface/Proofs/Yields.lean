import Mathlib.Data.List.TakeWhile
import ShaderInterface.Proofs.Spelling

namespace ShaderInterface.Reading

variable {α β : Type}

/-- Whatever a reading yields, together with the place behind it, satisfies `post`. -/
def Yields (read : Reading α) (c : Cursor) (post : α → Cursor → Prop) : Prop :=
  ∀ a c', (read c).result = .ok (a, c') → post a c'

namespace Yields

variable {c : Cursor} {opcode : UInt16} {bound : Int} {position : Nat} {words : List UInt32}

theorem mono {read : Reading α} {post post' : α → Cursor → Prop} (h : Yields read c post)
    (himp : ∀ a c', post a c' → post' a c') : Yields read c post' :=
  fun a c' hresult => himp a c' (h a c' hresult)

theorem pure {a : α} {post : α → Cursor → Prop} (h : post a c) : Yields (Pure.pure a) c post := by
  intro b c' hresult
  cases hresult
  exact h

theorem bind {read : Reading α} {next : α → Reading β} {post : β → Cursor → Prop}
    (h : Yields read c fun a c' => Yields (next a) c' post) : Yields (read >>= next) c post := by
  intro b c' hresult
  obtain ⟨p, hread, hnext⟩ := Traced.result_bind_eq_ok.1 hresult
  exact h p.1 p.2 hread b c' hnext

theorem lift {x : Traced α} {post : α → Cursor → Prop} (h : ∀ a, x.result = .ok a → post a c) :
    Yields (liftM x : Reading α) c post := by
  intro a c' hresult
  obtain ⟨b, hb, hpure⟩ := Traced.result_bind_eq_ok.1 hresult
  cases hpure
  exact h a hb

theorem take {read : Operand α} {post : α → Cursor → Prop}
    (h : ∀ a, (read c).1 = .ok a → post a (read c).2) : Yields (Reading.take read) c post := by
  intro a c' hresult
  rw [Reading.take] at hresult
  split at hresult
  · next b behind hread =>
    rw [hread] at h
    cases hresult
    exact h a rfl
  · cases hresult

theorem word {post : UInt32 → Cursor → Prop}
    (h : ∀ w rest, words = w :: rest → post w ⟨opcode, bound, position + 1, rest⟩) :
    Yields Reading.word ⟨opcode, bound, position, words⟩ post := by
  apply take
  intro a hok
  cases words with
  | nil => cases hok
  | cons w rest =>
    cases hok
    exact h a rest rfl

theorem flag {post : Bool → Cursor → Prop}
    (h : ∀ w rest, words = w :: rest → post (w == 1) ⟨opcode, bound, position + 1, rest⟩) :
    Yields Reading.flag ⟨opcode, bound, position, words⟩ post := by
  apply take
  intro a hok
  cases words with
  | nil => cases hok
  | cons w rest =>
    cases hok
    exact h w rest rfl

theorem id {post : UInt32 → Cursor → Prop}
    (h : ∀ w rest, words = w :: rest → (w.toNat : Int) < bound →
      post w ⟨opcode, bound, position + 1, rest⟩) :
    Yields Reading.id ⟨opcode, bound, position, words⟩ post := by
  apply take
  intro a hok
  cases words with
  | nil => cases hok
  | cons w rest =>
    change Operand.judgeId _ w = .ok a at hok
    rw [Operand.judgeId] at hok
    split_ifs at hok with hlt
    cases hok
    exact h a rest rfl hlt

theorem member {post : UInt32 → Cursor → Prop}
    (h : ∀ w rest, words = w :: rest → w < Operand.memberLimit →
      post w ⟨opcode, bound, position + 1, rest⟩) :
    Yields Reading.member ⟨opcode, bound, position, words⟩ post := by
  apply take
  intro a hok
  cases words with
  | nil => cases hok
  | cons w rest =>
    change Operand.judgeMember _ w = .ok a at hok
    rw [Operand.judgeMember] at hok
    split_ifs at hok with hlt
    cases hok
    exact h a rest rfl hlt

theorem ids {post : List UInt32 → Cursor → Prop}
    (h : (∀ id ∈ words, (id.toNat : Int) < bound) → ∀ c', post words c') :
    Yields Reading.ids ⟨opcode, bound, position, words⟩ post := by
  apply take
  intro list hok
  simp only [Operand.ids] at hok
  split at hok
  · next hend =>
    cases hok
    have hall : words.takeWhile (fun id => decide ((id.toNat : Int) < bound)) = words := by
      refine (List.takeWhile_prefix _).eq_of_length_le ?_
      exact List.drop_eq_nil_iff.1 hend
    rw [hall]
    exact h (fun id hid => of_decide_eq_true (List.takeWhile_eq_self_iff.1 hall id hid)) _
  · cases hok

theorem literals {post : List UInt32 → Cursor → Prop} (h : ∀ c', post words c') :
    Yields Reading.literals ⟨opcode, bound, position, words⟩ post := by
  apply take
  intro a hok
  cases hok
  exact h _

theorem text {post : String → Cursor → Prop}
    (h : ∀ position', post (Utf8.textOf words) ⟨opcode, bound, position', Utf8.behindText words⟩) :
    Yields Reading.text ⟨opcode, bound, position, words⟩ post := by
  apply take
  intro a hok
  cases hok
  -- Past the end there is nothing left to drop.
  have hdrop : ∀ n, words.drop (min n words.length) = words.drop n := by
    intro n
    rcases Nat.le_total n words.length with hn | hn
    · rw [Nat.min_eq_left hn]
    · rw [Nat.min_eq_right hn, List.drop_length, List.drop_eq_nil_of_le hn]
  simp only [Operand.text, Cursor.skip, hdrop]
  exact h _

theorem hasRemaining {post : Bool → Cursor → Prop}
    (h : post (!words.isEmpty) ⟨opcode, bound, position, words⟩) :
    Yields Reading.hasRemaining ⟨opcode, bound, position, words⟩ post := by
  intro a c' hresult
  cases hresult
  exact h

theorem word_lift {judge : UInt32 → Traced α} {post : α → Cursor → Prop}
    (h : ∀ a w rest, words = w :: rest → (judge w).result = .ok a →
      post a ⟨opcode, bound, position + 1, rest⟩) :
    Yields (Reading.word >>= fun w => liftM (judge w)) ⟨opcode, bound, position, words⟩ post :=
  bind (word fun w rest hw => lift fun a ha => h a w rest hw ha)

theorem decodeOpen [Numbered α] {numbering : OpenNumbering} {unknown : α}
    {post : α → Cursor → Prop}
    (h : ∀ w rest, words = w :: rest →
      post (Numbered.ofWord unknown w) ⟨opcode, bound, position + 1, rest⟩) :
    Yields (Reading.word >>= fun w => liftM (Numbered.decodeOpen numbering unknown w.toNat))
      ⟨opcode, bound, position, words⟩ post := by
  apply word_lift
  intro a w rest hw ha
  rw [Numbered.result_decodeOpen] at ha
  cases ha
  exact h w rest hw

theorem decodeClosed [Numbered α] {numbering : ClosedNumbering} {post : α → Cursor → Prop}
    (h : ∀ a w rest, words = w :: rest → Numbered.ofWord? w = some a →
      post a ⟨opcode, bound, position + 1, rest⟩) :
    Yields (Reading.word >>= fun w =>
        liftM (Traced.lift (Numbered.decodeClosed numbering w.toNat : Except Fault α)))
      ⟨opcode, bound, position, words⟩ post :=
  word_lift fun a w rest hw ha => h a w rest hw (Numbered.decodeClosed_eq_ok_iff.1 ha)

theorem accessQualifier? {post : Option AccessQualifier → Cursor → Prop}
    (h : ∀ access?, AccessQualifier.spelled? words = some access? → ∀ c', post access? c') :
    Yields Reading.accessQualifier? ⟨opcode, bound, position, words⟩ post := by
  refine bind (hasRemaining ?_)
  cases words with
  | nil => exact pure (h none rfl _)
  | cons w rest =>
    apply bind
    apply word
    intro w rest hw
    cases hw
    refine bind (lift fun q hq => pure (h (some q) ?_ _))
    rw [AccessQualifier.spelled?, Numbered.decodeClosed_eq_ok_iff.1 hq]
    rfl

theorem decoration {post : Decoration → Cursor → Prop}
    (h : ∀ kind rest, words = kind :: rest → ∀ c',
      post ⟨Numbered.ofWord .unknown kind, rest.map fun w => (w.toNat : Int)⟩ c') :
    Yields Reading.decoration ⟨opcode, bound, position, words⟩ post :=
  bind (decodeOpen fun kind rest hw => bind (literals fun c' => pure (h kind rest hw c')))

theorem localSize {post : LocalSize → Cursor → Prop}
    (h : ∀ x y z rest, words = x :: y :: z :: rest → ∀ c', post ⟨x, y, z⟩ c') :
    Yields Reading.localSize ⟨opcode, bound, position, words⟩ post := by
  refine bind (word fun x rest hx => bind (word fun y rest' hy =>
    bind (word fun z rest'' hz => ?_)))
  exact pure (h x y z rest'' (by rw [hx, hy, hz]) _)

end Yields

end ShaderInterface.Reading
