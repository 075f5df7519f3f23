import ShaderInterface.Proofs.TableProjection

namespace ShaderInterface

namespace Instruction

/-- If the instruction is about a member, it is one that a struct can have. -/
def MemberInRange (i : Instruction) : Prop :=
  ∀ k index, memberOf? k i = some index → index < Operand.memberLimit.toNat

theorem yields_memberInRange {α : Type} {read : Reading α}
    {say : UInt32 → UInt32 → α → Instruction}
    (h : ∀ target member a k,
      memberOf? k (say target member a) = if target = k then some member.toNat else none)
    (c : Cursor) :
    Reading.Yields (Reading.id >>= fun target => Reading.member >>= fun member =>
      read >>= fun a => pure (say target member a)) c fun i _ => i.MemberInRange := by
  obtain ⟨number, bound, position, words⟩ := c
  apply Reading.Yields.bind
  apply Reading.Yields.id
  intro target rest _ _
  apply Reading.Yields.bind
  apply Reading.Yields.member
  intro member rest' _ hmember
  apply Reading.Yields.bind
  intro a c _
  refine Reading.Yields.pure fun k index hindex => ?_
  rw [h, Option.ite_none_right_eq_some] at hindex
  cases hindex.2
  exact UInt32.lt_iff_toNat_lt.1 hmember

theorem yields_reading_memberInRange {opcode : Opcode} {read : Reading Instruction}
    (h : reading? opcode = some read) (c : Cursor) :
    Reading.Yields read c fun i _ => i.MemberInRange := by
  by_cases hname : opcode = .opMemberName
  · subst hname
    cases h
    exact yields_memberInRange (fun _ _ _ _ => rfl) c
  by_cases hdecorate : opcode = .opMemberDecorate
  · subst hdecorate
    cases h
    exact yields_memberInRange (fun _ _ _ _ => rfl) c
  -- What any other opcode spells is about no member.
  have hother : ∀ i : Instruction, opcode ∈ i.opcodes → i.MemberInRange := by
    intro i hi
    cases i with
    | memberName => exact absurd (List.mem_singleton.1 hi) hname
    | memberDecorate => exact absurd (List.mem_singleton.1 hi) hdecorate
    | _ => exact fun _ _ => nofun
  exact (yields_reading h).mono fun i _ hi => hother i hi.mem_opcodes

theorem eq_of_entryPoint? {i : Instruction} {point : EntryPoint}
    (h : i.entryPoint? = some point) : i = .entryPoint point := by
  cases i <;> cases h
  rfl

theorem eq_of_typeOf? {k : UInt32} {i : Instruction} {decl : TypeDecl}
    (h : typeOf? k i = some decl) : i = .declareType k decl := by
  cases i with
  | declareType target d =>
    obtain ⟨rfl, hd⟩ := Option.ite_none_right_eq_some.1 h
    rw [Option.some.inj hd]
  | _ => cases h

theorem eq_of_variableOf? {k : UInt32} {i : Instruction} {decl : VariableDecl}
    (h : variableOf? k i = some decl) : i = .declareVariable k decl := by
  cases i with
  | declareVariable target d =>
    obtain ⟨rfl, hd⟩ := Option.ite_none_right_eq_some.1 h
    rw [Option.some.inj hd]
  | _ => cases h

theorem eq_of_constantOf? {k : UInt32} {i : Instruction} {decl : ConstantDecl}
    (h : constantOf? k i = some decl) : i = .declareConstant k decl := by
  cases i with
  | declareConstant target d =>
    obtain ⟨rfl, hd⟩ := Option.ite_none_right_eq_some.1 h
    rw [Option.some.inj hd]
  | _ => cases h

/-- Instructions whose ids lie below a bound, about no member out of range. -/
structure AllWithin (bound : Nat) (is : List Instruction) : Prop where
  ids_lt : ∀ i ∈ is, ∀ id ∈ i.ids, id.toNat < bound
  members : ∀ i ∈ is, i.MemberInRange

end Instruction

open Instruction

theorem Frame.memberInRange_of_read {bound : Nat} {f : Frame} {i : Instruction}
    (h : f.read bound = .ok (some i)) : i.MemberInRange := by
  cases hreading : f.reading? with
  | none =>
    rw [read_of_reading?_eq_none hreading] at h
    cases h
  | some reading =>
    rw [read_of_reading?_eq_some hreading] at h
    obtain ⟨p, hresult, hi⟩ := exists_of_map_eq_ok h
    obtain ⟨opcode, -, hread⟩ := Option.bind_eq_some_iff.1 hreading
    rw [← Option.some.inj hi]
    exact yields_reading_memberInRange hread (f.cursor bound) p.1 p.2 hresult

def TypeDecl.Within (bound : Nat) (decl : TypeDecl) : Prop :=
  ∀ id ∈ decl.ids, id.toNat < bound

namespace Entry

/-- Every id that the entry holds lies below `bound`, and it has no more members than a struct can
have. -/
structure Within (bound : Nat) (e : Entry) : Prop where
  type_ids : ∀ decl, e.type? = some decl → decl.Within bound
  var_ids : ∀ decl, e.var? = some decl → ∀ id ∈ decl.type :: decl.initializer, id.toNat < bound
  const_type : ∀ decl, e.const? = some decl → decl.type.toNat < bound
  members : e.members.length ≤ 65533

/-- What is projected from instructions holds no id but theirs. -/
theorem within_project {bound : Nat} {is : List Instruction} (h : AllWithin bound is)
    (k : UInt32) : (project is k).Within bound where
  type_ids decl hdecl := by
    obtain ⟨i, hi, hask⟩ := exists_mem_of_last hdecl
    have hids := h.ids_lt i hi
    rw [eq_of_typeOf? hask] at hids
    exact (List.forall_mem_cons.1 hids).2
  var_ids decl hdecl := by
    obtain ⟨i, hi, hask⟩ := exists_mem_of_last hdecl
    have hids := h.ids_lt i hi
    rw [eq_of_variableOf? hask] at hids
    exact (List.forall_mem_cons.1 hids).2
  const_type decl hdecl := by
    obtain ⟨i, hi, hask⟩ := exists_mem_of_last hdecl
    have hids := h.ids_lt i hi
    rw [eq_of_constantOf? hask] at hids
    exact hids decl.type (.tail _ (.head _))
  members := by
    change ((List.range (memberCount is k)).map (Member.project is k)).length ≤ _
    rw [List.length_map, List.length_range, memberCount_le_iff]
    exact fun i hi index hindex => h.members i hi k index hindex

end Entry

namespace IdTable

def Closed (t : IdTable) : Prop :=
  ∀ (id : Nat) (e : Entry), t.get? id = some e → e.Within t.size

theorem lt_size_of_get? {t : IdTable} {id : Nat} {e : Entry} (h : t.get? id = some e) :
    id < t.size := by
  rw [get?_natCast] at h
  exact (Array.getElem?_eq_some_iff.1 h).1

theorem exists_get?_of_lt {t : IdTable} {id : Nat} (h : id < t.size) :
    ∃ e, t.get? id = some e :=
  ⟨t.entries[id], by rw [get?_natCast]; exact Array.getElem?_eq_getElem h⟩

end IdTable

namespace Module

theorem allWithin_of_program {words : List UInt32} {h : Header} {is : List Instruction}
    (hprogram : program words = .ok (h, is)) : AllWithin h.bound.toNat is := by
  obtain ⟨body, frames, -, -, hread⟩ := program_eq_ok_iff.1 hprogram
  have htells := Frame.forall₂_of_readAll hread
  refine ⟨Frame.ids_lt_of_forall₂ htells, fun i hi => ?_⟩
  obtain ⟨f, hf⟩ := Frame.exists_tells_of_forall₂ htells i hi
  exact Frame.memberInRange_of_read hf.read_eq

theorem get?_build_of_lt {h : Header} {n : Nat} (hn : n < h.bound.toNat)
    (is : List Instruction) :
    (build h is).ids.get? n = some (Entry.project is (.ofNat n)) := by
  have hnat : (UInt32.ofNat n).toNat = n :=
    UInt32.toNat_ofNat_of_lt' (Nat.lt_trans hn h.bound.toNat_lt)
  have hk : UInt32.ofNat n < h.bound := by rwa [UInt32.lt_iff_toNat_lt, hnat]
  rw [← get?_build hk is, hnat]

theorem closed_ids_build {h : Header} {is : List Instruction}
    (hwithin : AllWithin h.bound.toNat is) : (build h is).ids.Closed := by
  intro id e he
  have hlt : id < h.bound.toNat := by
    rw [← size_ids_build h is]
    exact IdTable.lt_size_of_get? he
  rw [get?_build_of_lt hlt] at he
  rw [size_ids_build, ← Option.some.inj he]
  exact Entry.within_project hwithin _

theorem closed_ids_of_decode {words : List UInt32} {m : Module}
    (h : (decode words).result = .ok m) : m.ids.Closed := by
  obtain ⟨is, hprogram, hbuild⟩ := exists_program_of_decode h
  rw [hbuild]
  exact closed_ids_build (allWithin_of_program hprogram)

end Module

end ShaderInterface
