import Mathlib.Data.List.Forall2
import ShaderInterface.Proofs.Settles

namespace ShaderInterface

variable {α β : Type}

theorem Traced.lift_bind (x : Except Fault α) (f : α → Except Fault β) :
    (liftM (x >>= f) : Traced β) = liftM x >>= fun a => liftM (f a) := by
  cases x <;> rfl

namespace Settles

variable {B : α → Prop} {R : α → β → Prop}

theorem blame_head {x : Except Fault β} {post : β → Prop} {a : α} (rest : List α)
    (h : Settles x post fun _ => B a) : Settles x post fun _ => ∃ b ∈ a :: rest, B b :=
  h.mono_blame fun _ hbad => ⟨a, .head rest, hbad⟩

theorem blame_tail {x : Except Fault β} {post : β → Prop} {rest : List α} (a : α)
    (h : Settles x post fun _ => ∃ b ∈ rest, B b) :
    Settles x post fun _ => ∃ b ∈ a :: rest, B b :=
  h.mono_blame fun _ ⟨b, hb, hbad⟩ => ⟨b, .tail a hb, hbad⟩

/-- If only bad elements are refused, and of the others those that are kept are answered, then a
scan holds one answer for each that is kept, in order. -/
theorem result_collect_filter {f : α → Traced (Option β)} {keep : α → Prop} [DecidablePred keep]
    {l : List α}
    (h : ∀ a ∈ l, Settles (f a).result
      (fun b? => ¬ B a ∧ (keep a ↔ b?.isSome = true) ∧ ∀ b ∈ b?, R a b) fun _ => B a) :
    Settles (Traced.collect f l).result
      (fun bs => (∀ a ∈ l, ¬ B a) ∧ List.Forall₂ R (l.filter keep) bs)
      fun _ => ∃ a ∈ l, B a := by
  induction l with
  | nil => exact ok ⟨List.forall_mem_nil _, .nil⟩
  | cons a rest ih =>
    obtain ⟨ha, hrest⟩ := List.forall_mem_cons.1 h
    have htail := (ih hrest).blame_tail a
    rw [Traced.collect]
    refine (ha.blame_head rest).result_bind fun b? hb => ?_
    obtain ⟨hgood, hkeep, hanswer⟩ := hb
    cases b? with
    | none =>
      have hdrop : ¬ keep a := by simpa using hkeep
      refine htail.mono (fun bs hbs => ?_) fun _ hbad => hbad
      obtain ⟨hall, hbs⟩ := hbs
      exact ⟨List.forall_mem_cons.2 ⟨hgood, hall⟩, by simpa [hdrop] using hbs⟩
    | some b =>
      have htake : keep a := by simpa using hkeep
      refine htail.result_bind fun bs hbs => ?_
      obtain ⟨hall, hbs⟩ := hbs
      exact ok ⟨List.forall_mem_cons.2 ⟨hgood, hall⟩, by simpa [htake] using ⟨hanswer b rfl, hbs⟩⟩

/-- A scan in two passes: what the first found of the elements of `l` is resolved by the second. -/
theorem result_mapM_forall₂ {γ : Type} {found : α → γ → Prop} {f : γ → Traced β} {l : List α}
    {cs : List γ} (hl : List.Forall₂ found l cs)
    (h : ∀ a ∈ l, ∀ c, found a c →
      Settles (f c).result (fun b => ¬ B a ∧ R a b) fun _ => B a) :
    Settles (cs.mapM f).result (fun bs => (∀ a ∈ l, ¬ B a) ∧ List.Forall₂ R l bs)
      fun _ => ∃ a ∈ l, B a := by
  induction hl with
  | nil => exact ok ⟨List.forall_mem_nil _, .nil⟩
  | @cons a c rest cs ha _ ih =>
    obtain ⟨hhead, hrest⟩ := List.forall_mem_cons.1 h
    rw [List.mapM_cons]
    refine ((hhead c ha).blame_head rest).result_bind fun b ⟨hgood, hb⟩ => ?_
    refine ((ih hrest).blame_tail a).result_bind fun bs ⟨hall, hbs⟩ => ?_
    exact ok ⟨List.forall_mem_cons.2 ⟨hgood, hall⟩, .cons hb hbs⟩

end Settles

end ShaderInterface
