import Mathlib.Data.List.Induction
import Mathlib.Order.Basic
import ShaderInterface.Proofs.InstructionStream

namespace ShaderInterface

namespace Instruction

variable {α : Type}

@[simp] def target? : Instruction → Option UInt32
  | entryPoint _ | otherMode _ _ => none
  | localSize target _ | name target _ | memberName target _ _ | decorate target _
  | memberDecorate target _ _ | declareType target _ | declareVariable target _
  | declareConstant target _ => some target

theorem mem_ids_of_target? {i : Instruction} {k : UInt32} (h : i.target? = some k) :
    k ∈ i.ids := by
  cases i with
  | entryPoint | otherMode => cases h
  | _ =>
    cases h
    exact List.mem_cons_self

/-- The last answer that an instruction of the list gives. -/
def last (ask : Instruction → Option α) (is : List Instruction) : Option α :=
  (is.filterMap ask).getLast?

@[simp] def entryPoint? : Instruction → Option EntryPoint
  | entryPoint point => some point
  | _ => none

@[simp] def localSizeOf? (k : UInt32) : Instruction → Option LocalSize
  | localSize function size => if function = k then some size else none
  | _ => none

@[simp] def nameOf? (k : UInt32) : Instruction → Option String
  | name target text => if target = k then some text else none
  | _ => none

@[simp] def decorationOf? (k : UInt32) : Instruction → Option Decoration
  | decorate target d => if target = k then some d else none
  | _ => none

@[simp] def typeOf? (k : UInt32) : Instruction → Option TypeDecl
  | declareType target decl => if target = k then some decl else none
  | _ => none

@[simp] def variableOf? (k : UInt32) : Instruction → Option VariableDecl
  | declareVariable target decl => if target = k then some decl else none
  | _ => none

@[simp] def constantOf? (k : UInt32) : Instruction → Option ConstantDecl
  | declareConstant target decl => if target = k then some decl else none
  | _ => none

@[simp] def memberOf? (k : UInt32) : Instruction → Option Nat
  | memberName target member _ | memberDecorate target member _ =>
    if target = k then some member.toNat else none
  | _ => none

@[simp] def memberNameOf? (k : UInt32) (index : Nat) : Instruction → Option String
  | memberName target member text =>
    if target = k ∧ member.toNat = index then some text else none
  | _ => none

@[simp] def memberDecorationOf? (k : UInt32) (index : Nat) : Instruction → Option Decoration
  | memberDecorate target member d =>
    if target = k ∧ member.toNat = index then some d else none
  | _ => none

theorem filterMap_concat (ask : Instruction → Option α) (is : List Instruction)
    (i : Instruction) : (is ++ [i]).filterMap ask = is.filterMap ask ++ (ask i).toList := by
  rw [List.filterMap_append]
  cases h : ask i with
  | none => rw [List.filterMap_cons_none h, List.filterMap_nil, Option.toList_none]
  | some a => rw [List.filterMap_cons_some h, List.filterMap_nil, Option.toList_some]

theorem last_concat (ask : Instruction → Option α) (is : List Instruction) (i : Instruction) :
    last ask (is ++ [i]) = (ask i).or (last ask is) := by
  rw [last, filterMap_concat]
  cases ask i with
  | none => rw [Option.toList_none, List.append_nil, Option.none_or, last]
  | some a => rw [Option.toList_some, List.getLast?_concat, Option.some_or]

theorem last_eq_none_iff {ask : Instruction → Option α} {is : List Instruction} :
    last ask is = none ↔ ∀ i ∈ is, ask i = none := by
  rw [last, List.getLast?_eq_none_iff, List.filterMap_eq_nil_iff]

theorem exists_mem_of_last {ask : Instruction → Option α} {is : List Instruction} {a : α}
    (h : last ask is = some a) : ∃ i ∈ is, ask i = some a :=
  List.mem_filterMap.1 (List.mem_of_getLast? h)

end Instruction

open Instruction

namespace Member

/-- What is said about one member of an id: the last name, and all decorations in order. -/
def project (is : List Instruction) (k : UInt32) (index : Nat) : Member where
  name? := last (memberNameOf? k index) is
  decorations := is.filterMap (memberDecorationOf? k index)

def tell (k : UInt32) (index : Nat) (m : Member) (i : Instruction) : Member where
  name? := (memberNameOf? k index i).or m.name?
  decorations := m.decorations ++ (memberDecorationOf? k index i).toList

theorem project_concat (is : List Instruction) (i : Instruction) (k : UInt32) (index : Nat) :
    project (is ++ [i]) k index = (project is k index).tell k index i := by
  rw [project, last_concat, filterMap_concat]
  rfl

theorem memberNameOf?_eq_none {k : UInt32} {index : Nat} {i : Instruction}
    (h : memberOf? k i ≠ some index) : memberNameOf? k index i = none := by
  cases i with
  | memberName target member text =>
    apply if_neg
    rintro ⟨htarget, rfl⟩
    exact h (if_pos htarget)
  | _ => rfl

theorem memberDecorationOf?_eq_none {k : UInt32} {index : Nat} {i : Instruction}
    (h : memberOf? k i ≠ some index) : memberDecorationOf? k index i = none := by
  cases i with
  | memberDecorate target member d =>
    apply if_neg
    rintro ⟨htarget, rfl⟩
    exact h (if_pos htarget)
  | _ => rfl

theorem tell_of_ne {k : UInt32} {index : Nat} {i : Instruction} (h : memberOf? k i ≠ some index)
    (m : Member) : m.tell k index i = m := by
  rw [tell, memberNameOf?_eq_none h, memberDecorationOf?_eq_none h, Option.none_or,
    Option.toList_none, List.append_nil]

theorem project_eq_blank {is : List Instruction} {k : UInt32} {index : Nat}
    (h : ∀ i ∈ is, memberOf? k i ≠ some index) : project is k index = {} := by
  induction is using List.reverseRecOn with
  | nil => rfl
  | append_singleton is i ih =>
    obtain ⟨his, hi⟩ := List.forall_mem_append.1 h
    rw [project_concat, ih his, tell_of_ne (hi i List.mem_cons_self)]

end Member

namespace Entry

/-- One more than the greatest member that is spoken of, or none. -/
def memberCount (is : List Instruction) (k : UInt32) : Nat :=
  (is.filterMap (memberOf? k)).max?.elim 0 (· + 1)

/-- What is said about an id: the last of each kind, all decorations in order, and all members up to
the greatest. -/
def project (is : List Instruction) (k : UInt32) : Entry where
  name? := last (nameOf? k) is
  decorations := is.filterMap (decorationOf? k)
  members := (List.range (memberCount is k)).map (Member.project is k)
  type? := last (typeOf? k) is
  var? := last (variableOf? k) is
  const? := last (constantOf? k) is
  localSize? := last (localSizeOf? k) is

def tell (k : UInt32) (e : Entry) (i : Instruction) : Entry where
  name? := (nameOf? k i).or e.name?
  decorations := e.decorations ++ (decorationOf? k i).toList
  members :=
    match memberOf? k i with
    | none => e.members
    | some index => (e.modifyMember index fun m => m.tell k index i).members
  type? := (typeOf? k i).or e.type?
  var? := (variableOf? k i).or e.var?
  const? := (constantOf? k i).or e.const?
  localSize? := (localSizeOf? k i).or e.localSize?

theorem tell_of_target?_ne {k : UInt32} {i : Instruction} (h : i.target? ≠ some k) (e : Entry) :
    e.tell k i = e := by
  cases i <;> simp_all [tell]

theorem memberCount_le_iff {is : List Instruction} {k : UInt32} {n : Nat} :
    memberCount is k ≤ n ↔ ∀ i ∈ is, ∀ index, memberOf? k i = some index → index < n := by
  have hmem : (∀ index ∈ is.filterMap (memberOf? k), index < n) ↔
      ∀ i ∈ is, ∀ index, memberOf? k i = some index → index < n := by
    simp only [List.mem_filterMap]
    constructor
    · exact fun h i hi index hindex => h index ⟨i, hi, hindex⟩
    · exact fun h index ⟨i, hi, hindex⟩ => h i hi index hindex
  rw [← hmem, memberCount]
  cases hmax : (is.filterMap (memberOf? k)).max? with
  | none =>
    rw [List.max?_eq_none_iff.1 hmax]
    exact ⟨fun _ => nofun, fun _ => Nat.zero_le n⟩
  | some greatest =>
    obtain ⟨hgreatest, hle⟩ := List.max?_eq_some_iff.1 hmax
    constructor
    · exact fun h index hindex => Nat.lt_of_lt_of_le (Nat.lt_succ_of_le (hle index hindex)) h
    · exact fun h => h greatest hgreatest

theorem memberCount_concat (is : List Instruction) (i : Instruction) (k : UInt32) :
    memberCount (is ++ [i]) k = max (memberCount is k) ((memberOf? k i).elim 0 (· + 1)) := by
  apply eq_of_forall_ge_iff
  intro n
  rw [Nat.max_le, memberCount_le_iff, memberCount_le_iff, List.forall_mem_append,
    List.forall_mem_singleton]
  refine and_congr_right fun _ => ?_
  cases memberOf? k i with
  | none => exact ⟨fun _ => Nat.zero_le n, fun _ => nofun⟩
  | some index => exact ⟨fun h => h index rfl, fun h j hj => Option.some.inj hj ▸ h⟩

theorem rightpad_map_range {g : Nat → Member} {n : Nat} (h : ∀ j, n ≤ j → g j = {}) (n' : Nat) :
    ((List.range n).map g).rightpad n' {} = (List.range (max n n')).map g := by
  apply List.ext_getElem?
  intro j
  rw [List.rightpad, List.length_map, List.length_range, List.getElem?_map]
  by_cases hj : j < n
  · rw [List.getElem?_append_left (by rwa [List.length_map, List.length_range]),
      List.getElem?_map, List.getElem?_range hj, List.getElem?_range (by omega)]
  · rw [List.getElem?_append_right (by rw [List.length_map, List.length_range]; omega),
      List.length_map, List.length_range, List.getElem?_replicate]
    by_cases hj' : j < n'
    · rw [if_pos (by omega), List.getElem?_range (by omega), Option.map_some, h j (by omega)]
    · rw [if_neg (by omega), List.getElem?_eq_none (by rw [List.length_range]; omega),
        Option.map_none]

theorem modify_map_range {g g' : Nat → Member} {f : Member → Member} {index : Nat}
    (hindex : g' index = f (g index)) (hne : ∀ j, j ≠ index → g' j = g j) (n : Nat) :
    ((List.range n).map g).modify index f = (List.range n).map g' := by
  apply List.ext_getElem?
  intro j
  rw [List.getElem?_modify, List.getElem?_map, List.getElem?_map]
  by_cases hn : j < n
  · rw [List.getElem?_range hn]
    by_cases hj : index = j
    · subst hj
      simp only [Option.map_some, if_pos, hindex, Functor.map]
    · simp only [Option.map_some, if_neg hj, hne j (Ne.symm hj), Functor.map]
  · rw [List.getElem?_eq_none (by rw [List.length_range]; omega)]
    rfl

theorem members_project_concat (is : List Instruction) (i : Instruction) (k : UInt32) :
    (project (is ++ [i]) k).members = ((project is k).tell k i).members := by
  change (List.range (memberCount (is ++ [i]) k)).map (Member.project (is ++ [i]) k) =
    ((project is k).tell k i).members
  rw [memberCount_concat, tell]
  cases hmember : memberOf? k i with
  | none =>
    have hproject : Member.project (is ++ [i]) k = Member.project is k := by
      funext index
      rw [Member.project_concat, Member.tell_of_ne]
      rw [hmember]
      exact nofun
    rw [hproject, Option.elim_none, Nat.max_zero]
    rfl
  | some index =>
    -- Members behind the count are blank, so filling the list up does not show.
    have hblank : ∀ j, memberCount is k ≤ j → Member.project is k j = {} := by
      intro j hj
      apply Member.project_eq_blank
      intro i' hi' hmember'
      exact absurd (memberCount_le_iff.1 hj i' hi' j hmember') (Nat.lt_irrefl j)
    have hother : ∀ j, j ≠ index → Member.project (is ++ [i]) k j = Member.project is k j := by
      intro j hj
      rw [Member.project_concat, Member.tell_of_ne]
      rw [hmember]
      exact fun he => hj (Option.some.inj he).symm
    change _ = (((List.range (memberCount is k)).map (Member.project is k)).rightpad
      (index + 1) {}).modify index _
    rw [rightpad_map_range hblank, modify_map_range (Member.project_concat is i k index) hother]
    rfl

theorem project_concat (is : List Instruction) (i : Instruction) (k : UInt32) :
    project (is ++ [i]) k = (project is k).tell k i := by
  have hmembers := members_project_concat is i k
  simp only [project, last_concat, filterMap_concat] at hmembers ⊢
  rw [hmembers]
  rfl

theorem memberCount_eq_zero_iff {is : List Instruction} {k : UInt32} :
    memberCount is k = 0 ↔ ∀ i ∈ is, memberOf? k i = none := by
  rw [← Nat.le_zero, memberCount_le_iff]
  refine forall₂_congr fun i _ => ?_
  simp only [Nat.not_lt_zero, imp_false, Option.eq_none_iff_forall_ne_some]

/-- An entry counts as blank if nothing but a size is said about its id. -/
theorem isBlank_project_iff {is : List Instruction} {k : UInt32} :
    (project is k).isBlank ↔
      ∀ i ∈ is, i.target? = some k → ∃ size, i = .localSize k size := by
  have hblank : (project is k).isBlank ↔ ∀ i ∈ is, nameOf? k i = none ∧
      decorationOf? k i = none ∧ memberOf? k i = none ∧ typeOf? k i = none ∧
      variableOf? k i = none ∧ constantOf? k i = none := by
    simp only [isBlank, project, beq_iff_eq, mk.injEq, last_eq_none_iff,
      List.filterMap_eq_nil_iff, List.map_eq_nil_iff, List.range_eq_nil, memberCount_eq_zero_iff,
      and_true, ← forall_and]
  rw [hblank]
  refine forall₂_congr fun i _ => ?_
  cases i <;> simp

end Entry

end ShaderInterface
