namespace ShaderInterface

/-- A closed family of members, each with a code and a spelling. No two share a code. -/
class Numbered (α : Type) where
  family : String
  members : List α
  code : α → Int
  name : α → String
  mem_members : ∀ a, a ∈ members
  nodup_codes : (members.map code).Nodup

namespace Numbered

variable {α : Type} [Numbered α]

/-- The member with a code. A negative code stands for no listed member. -/
def ofCode? (n : Int) : Option α :=
  if n < 0 then none else members.find? (code · == n)

def ofName? (text : String) : Option α :=
  members.find? (name · == text)

/-- Family, spelling and code of a member, for messages. -/
def describe (a : α) : String :=
  s!"<{family α}.{name a}: {code a}>"

theorem eq_of_code_eq {a b : α} (h : code a = code b) : a = b := by
  have hn : ((members : List α).map code).Nodup := nodup_codes
  have ha := mem_members a
  have hb := mem_members b
  generalize (members : List α) = l at hn ha hb
  induction l with
  | nil => simp at ha
  | cons c r ih =>
    simp only [List.map_cons, List.nodup_cons, List.mem_map, not_exists, not_and] at hn
    rcases List.mem_cons.1 ha with rfl | har
    · rcases List.mem_cons.1 hb with rfl | hbr
      · rfl
      · exact absurd h.symm (hn.1 b hbr)
    · rcases List.mem_cons.1 hb with rfl | hbr
      · exact absurd h (hn.1 a har)
      · exact ih hn.2 har hbr

theorem ofCode?_eq_some_iff {n : Int} {a : α} : ofCode? n = some a ↔ 0 ≤ n ∧ code a = n := by
  unfold ofCode?
  split
  · simp; omega
  · constructor
    · intro h
      have := List.find?_some h
      simp at this
      omega
    · rintro ⟨h, rfl⟩
      cases hb : (members : List α).find? (code · == code a) with
      | none => exact absurd (List.find?_eq_none.1 hb a (mem_members a)) (by simp)
      | some b =>
        have := List.find?_some hb
        exact congrArg some (eq_of_code_eq (by simpa using this))

end Numbered

end ShaderInterface
