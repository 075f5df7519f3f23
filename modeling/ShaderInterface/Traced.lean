import ShaderInterface.Event
import ShaderInterface.Fault

namespace ShaderInterface

/-- An outcome with the events on the way to it. A fault keeps the events before it. -/
@[ext] structure Traced (α : Type) where
  log : List Event
  result : Except Fault α

namespace Traced

variable {α β : Type}

def pure (a : α) : Traced α := ⟨[], .ok a⟩

def bind (x : Traced α) (f : α → Traced β) : Traced β :=
  match x.result with
  | .ok a =>
    let y := f a
    ⟨x.log ++ y.log, y.result⟩
  | .error fault => ⟨x.log, .error fault⟩

instance : Monad Traced where
  pure := pure
  bind := bind

theorem bind_of_ok {x : Traced α} {a : α} (h : x.result = .ok a) (f : α → Traced β) :
    x >>= f = ⟨x.log ++ (f a).log, (f a).result⟩ := by
  simp only [Bind.bind, bind, h]

theorem bind_of_error {x : Traced α} {fault : Fault} (h : x.result = .error fault)
    (f : α → Traced β) : x >>= f = ⟨x.log, .error fault⟩ := by
  simp only [Bind.bind, bind, h]

@[simp] theorem log_pure (a : α) : (Pure.pure a : Traced α).log = [] := rfl

@[simp] theorem result_pure (a : α) : (Pure.pure a : Traced α).result = .ok a := rfl

theorem result_bind (x : Traced α) (f : α → Traced β) :
    (x >>= f).result = x.result.bind fun a => (f a).result := by
  cases h : x.result with
  | ok a => rw [bind_of_ok h]; rfl
  | error fault => rw [bind_of_error h]; rfl

theorem result_bind_eq_ok {x : Traced α} {f : α → Traced β} {b : β} :
    (x >>= f).result = .ok b ↔ ∃ a, x.result = .ok a ∧ (f a).result = .ok b := by
  rw [result_bind]
  cases x.result with
  | ok a => simp only [Except.bind, Except.ok.injEq, exists_eq_left']
  | error fault => simp only [Except.bind, reduceCtorEq, false_and, exists_false]

instance : LawfulMonad Traced := LawfulMonad.mk' Traced
  (fun x => by
    cases h : x.result <;> simp [Functor.map, bind, h, pure, Traced.ext_iff])
  (fun a f => by simp [Bind.bind, Pure.pure, bind, pure])
  (fun x f g => by
    cases hx : x.result with
    | error fault => simp [Bind.bind, bind, hx]
    | ok a =>
      cases hy : (f a).result <;> simp [Bind.bind, bind, hx, hy])

def lift (result : Except Fault α) : Traced α := ⟨[], result⟩

instance : MonadLift (Except Fault) Traced := ⟨lift⟩

def fail (fault : Fault) : Traced α := lift (.error fault)

def report (events : List Event) : Traced Unit := ⟨events, .ok ()⟩

@[simp] theorem result_fail (fault : Fault) : (fail fault : Traced α).result = .error fault := rfl

/-- The answers that are there, in order. -/
def collect (f : α → Traced (Option β)) : List α → Traced (List β)
  | [] => return []
  | a :: rest => do
    match ← f a with
    | none => collect f rest
    | some b => return b :: (← collect f rest)

end Traced

end ShaderInterface
