import ShaderInterface.Traced

namespace ShaderInterface

variable {α β : Type}

/-- Two steps succeed if the first does and then the second. -/
theorem bind_eq_ok_iff {x : Except Fault α} {f : α → Except Fault β} {b : β} :
    x >>= f = .ok b ↔ ∃ a, x = .ok a ∧ f a = .ok b := by
  cases x with
  | ok a => exact ⟨fun h => ⟨a, rfl, h⟩, fun ⟨_, ha, h⟩ => Except.ok.inj ha ▸ h⟩
  | error fault => exact ⟨nofun, nofun⟩

/-- The outcome is a value with `post` or a fault with `blame`. -/
def Settles (x : Except Fault α) (post : α → Prop) (blame : Fault → Prop) : Prop :=
  match x with
  | .ok a => post a
  | .error fault => blame fault

namespace Settles

variable {x : Except Fault α} {post post' : α → Prop} {blame blame' : Fault → Prop}

theorem ok {a : α} (h : post a) : Settles (.ok a) post blame := h

theorem error {fault : Fault} (h : blame fault) :
    Settles (.error fault : Except Fault α) post blame := h

theorem of_eq_ok (h : Settles x post blame) {a : α} (hx : x = .ok a) : post a := by
  rw [hx] at h
  exact h

theorem of_eq_error (h : Settles x post blame) {fault : Fault} (hx : x = .error fault) :
    blame fault := by
  rw [hx] at h
  exact h

/-- Where it is known which value comes out, a fault tells that there is none. -/
theorem of_eq_ok_iff (h : ∀ a, x = .ok a ↔ post a) :
    Settles x post fun _ => ∀ a, ¬ post a := by
  cases x with
  | ok a => exact (h a).1 rfl
  | error fault => exact fun a ha => nomatch (h a).2 ha

theorem mono (h : Settles x post blame) (hpost : ∀ a, post a → post' a)
    (hblame : ∀ fault, blame fault → blame' fault) : Settles x post' blame' := by
  cases x with
  | ok a => exact hpost a h
  | error fault => exact hblame fault h

theorem mono_blame (h : Settles x post blame) (hblame : ∀ fault, blame fault → blame' fault) :
    Settles x post blame' :=
  h.mono (fun _ hpost => hpost) hblame

theorem and (h : Settles x post blame) (h' : Settles x post' blame') :
    Settles x (fun a => post a ∧ post' a) fun fault => blame fault ∧ blame' fault := by
  cases x with
  | ok a => exact ⟨h, h'⟩
  | error fault => exact ⟨h, h'⟩

theorem forget (h : Settles x post blame) : Settles x (fun _ => True) blame :=
  h.mono (fun _ _ => trivial) fun _ hfault => hfault

theorem map {f : α → β} {post' : β → Prop} (h : Settles x post blame)
    (hf : ∀ a, post a → post' (f a)) : Settles (x.map f) post' blame := by
  cases x with
  | ok a => exact hf a h
  | error fault => exact h

theorem bind {f : α → Except Fault β} {post' : β → Prop} (h : Settles x post blame)
    (hf : ∀ a, post a → Settles (f a) post' blame) : Settles (x >>= f) post' blame := by
  cases x with
  | ok a => exact hf a h
  | error fault => exact h

theorem result_bind {x : Traced α} {f : α → Traced β} {post' : β → Prop}
    (h : Settles x.result post blame) (hf : ∀ a, post a → Settles (f a).result post' blame) :
    Settles (x >>= f).result post' blame := by
  rw [Traced.result_bind]
  exact h.bind hf

theorem result_lift (h : Settles x post blame) :
    Settles (liftM x : Traced α).result post blame := h

theorem result_collect {f : α → Traced (Option β)} {post : β → Prop} {l : List α}
    (h : ∀ a ∈ l, Settles (f a).result (fun b? => ∀ b ∈ b?, post b) blame) :
    Settles (Traced.collect f l).result (fun bs => ∀ b ∈ bs, post b) blame := by
  induction l with
  | nil => exact ok (List.forall_mem_nil post)
  | cons a rest ih =>
    obtain ⟨ha, hrest⟩ := List.forall_mem_cons.1 h
    rw [Traced.collect]
    refine ha.result_bind fun b? hb => ?_
    cases b? with
    | none => exact ih hrest
    | some b =>
      refine (ih hrest).result_bind fun bs hbs => ?_
      exact ok (List.forall_mem_cons.2 ⟨hb b rfl, hbs⟩)

theorem result_mapM {f : α → Traced β} {l : List α}
    (h : ∀ a ∈ l, Settles (f a).result (fun _ => True) blame) :
    Settles (l.mapM f).result (fun _ => True) blame := by
  induction l with
  | nil =>
    rw [List.mapM_nil]
    exact ok trivial
  | cons a rest ih =>
    obtain ⟨ha, hrest⟩ := List.forall_mem_cons.1 h
    rw [List.mapM_cons]
    exact ha.result_bind fun b _ => (ih hrest).result_bind fun bs _ => ok trivial

end Settles

end ShaderInterface
