import Mathlib.Tactic.SplitIfs
import ShaderInterface.IdTable.Layout
import ShaderInterface.IdTable.ShaderType
import ShaderInterface.IdTable.Size
import ShaderInterface.Proofs.ReferenceClosure
import ShaderInterface.Proofs.Settles

namespace ShaderInterface

namespace Fault

def isDangling : Fault → Bool
  | idOutOfBounds _ _ => true
  | _ => false

/-- A fault of what a module says, found at an id of its table. -/
def Inside (f : Fault) : Prop :=
  f.concernsModule = true ∧ f.isDangling = false

theorem inside_of_category {f : Fault} (h : f.category = .unsupportedType) : f.Inside := by
  refine ⟨by rw [concernsModule, h], ?_⟩
  cases f with
  | idOutOfBounds => cases h
  | _ => rfl

end Fault

theorem Settles.inside {α : Type} {x : Except Fault α} {post : α → Prop}
    (h : Settles x post (·.category = .unsupportedType)) : Settles x post Fault.Inside :=
  h.mono_blame fun _ => Fault.inside_of_category

namespace TypeDecl

theorem settles_scalarKind (decl : TypeDecl) :
    Settles decl.scalarKind (fun _ => True) (·.category = .unsupportedType) := by
  cases decl with
  | bool => exact .ok trivial
  | float width =>
    rw [scalarKind]
    split_ifs
    · exact .ok trivial
    · exact .ok trivial
    · exact .error rfl
  | int width signed => exact .ok trivial
  | _ => exact .error rfl

end TypeDecl

namespace IdTable

variable {t : IdTable} {id : Nat} {blame : Fault → Prop}

theorem settles_lookup (hid : id < t.size) :
    Settles (t.lookup id) (fun e => t.get? id = some e) blame := by
  obtain ⟨e, he⟩ := exists_get?_of_lt hid
  rw [lookup, he]
  exact .ok rfl

theorem settles_typeOf (ht : t.Closed) (hid : id < t.size) (hblame : blame (.notAType id)) :
    Settles (t.typeOf id) (TypeDecl.Within t.size) blame := by
  refine (settles_lookup hid).bind fun e he => ?_
  have hids := (ht id e he).type_ids
  cases htype : e.type? with
  | none => exact .error hblame
  | some decl => exact .ok (hids decl htype)

theorem settles_constantOf (hid : id < t.size) (hblame : blame (.notAConstant id)) :
    Settles (t.constantOf id) (fun _ => True) blame := by
  refine (settles_lookup hid).bind fun e _ => ?_
  split
  · exact .error hblame
  · exact .error hblame
  · exact .ok trivial

theorem values_ne_nil_of_constantOf {id : Int} {c : ConstantDecl} (h : t.constantOf id = .ok c) :
    c.values ≠ [] := by
  obtain ⟨e, -, hconst⟩ := bind_eq_ok_iff.1 h
  rcases hdecl : e.const? with _ | ⟨type, _ | ⟨first, rest⟩⟩ <;> rw [hdecl] at hconst
  · cases hconst
  · cases hconst
  · cases hconst
    exact List.cons_ne_nil first rest

/-- A constant that is found has a first value, so a length is refused with the fault of the
constant only. -/
theorem settles_arrayLength_of_constantOf {id : Int}
    (h : Settles (t.constantOf id) (fun _ => True) blame) :
    Settles (t.arrayLength id) (fun _ => True) blame := by
  unfold arrayLength
  cases hconst : t.constantOf id with
  | error fault => exact .error (h.of_eq_error hconst)
  | ok c =>
    obtain ⟨type, _ | ⟨first, rest⟩⟩ := c
    · exact absurd rfl (values_ne_nil_of_constantOf hconst)
    · exact .ok trivial

theorem settles_arrayLength (hid : id < t.size) (hblame : blame (.notAConstant id)) :
    Settles (t.arrayLength id) (fun _ => True) blame :=
  settles_arrayLength_of_constantOf (settles_constantOf hid hblame)

theorem settles_allTyped {members : List UInt32} (h : ∀ id ∈ members, id.toNat < t.size) :
    Settles (t.allTyped members) (fun _ => True) blame := by
  induction members with
  | nil => exact .ok trivial
  | cons id rest ih =>
    obtain ⟨hid, hrest⟩ := List.forall_mem_cons.1 h
    rw [allTyped]
    refine (settles_lookup hid).bind fun e _ => ?_
    split
    · exact ih hrest
    · exact .ok trivial

theorem settles_totalSize {size : UInt32 → Except Fault (Option Nat)} {members : List UInt32}
    (h : ∀ id ∈ members, Settles (size id) (fun _ => True) blame) :
    Settles (totalSize size members) (fun _ => True) blame := by
  induction members with
  | nil => exact .ok trivial
  | cons id rest ih =>
    obtain ⟨hid, hrest⟩ := List.forall_mem_cons.1 h
    rw [totalSize]
    refine hid.bind fun n? _ => ?_
    cases n? with
    | none => exact .ok trivial
    | some n => exact (ih hrest).bind fun _ _ => .ok trivial

theorem settles_sizeWithin (ht : t.Closed) (limit : Int) (levels : Nat) {type : TypeDecl}
    (htype : type.Within t.size) :
    Settles (t.sizeWithin limit levels type) (fun _ => True) Fault.Inside := by
  induction levels generalizing type with
  | zero => exact .error ⟨rfl, rfl⟩
  | succ n ih =>
    cases type with
    | array element length =>
      have helement := htype element (.head _)
      have hlength := htype length (.tail _ (.head _))
      refine (settles_typeOf ht helement ⟨rfl, rfl⟩).bind fun decl hdecl => ?_
      refine (ih hdecl).bind fun size? _ => ?_
      cases size? with
      | none => exact .ok trivial
      | some size => exact (settles_arrayLength hlength ⟨rfl, rfl⟩).bind fun _ _ => .ok trivial
    | pointer storage target =>
      have htarget := htype target (.head _)
      exact (settles_typeOf ht htarget ⟨rfl, rfl⟩).bind fun decl hdecl => ih hdecl
    | struct members =>
      refine (settles_allTyped htype).bind fun typed _ => ?_
      split
      · exact settles_totalSize fun id hid =>
          (settles_typeOf ht (htype id hid) ⟨rfl, rfl⟩).bind fun decl hdecl => ih hdecl
      · exact .ok trivial
    | matrix column count =>
      rw [sizeWithin]
      split
      · exact .ok trivial
      · exact .error ⟨rfl, rfl⟩
    | vector component count =>
      rw [sizeWithin]
      split
      · exact .ok trivial
      · exact .error ⟨rfl, rfl⟩
    | _ => exact .error ⟨rfl, rfl⟩

theorem settles_imageType (i : ImageDecl) :
    Settles (imageType i) (fun _ => True) (·.category = .unsupportedType) := by
  rw [imageType]
  split
  · exact .ok trivial
  · exact .error rfl

theorem settles_samplerType (type : TypeDecl) :
    Settles (samplerType type) (fun _ => True) (·.category = .unsupportedType) := by
  cases type with
  | image i =>
    rw [samplerType]
    split
    · exact .ok trivial
    · exact .error rfl
  | _ => exact .error rfl

theorem settles_vectorType (component : TypeDecl) (count : UInt32) :
    Settles (vectorType component count) (fun _ => True) (·.category = .unsupportedType) := by
  refine component.settles_scalarKind.bind fun kind _ => ?_
  split
  · exact .ok trivial
  · exact .error rfl

theorem settles_shaderTypeWithin (ht : t.Closed) (limit : Int) (levels : Nat) {type : TypeDecl}
    (htype : type.Within t.size) :
    Settles (t.shaderTypeWithin limit levels type) (fun _ => True) Fault.Inside := by
  induction levels generalizing type with
  | zero => exact .error ⟨rfl, rfl⟩
  | succ n ih =>
    cases type with
    | array element length =>
      have helement := htype element (.head _)
      have hlength := htype length (.tail _ (.head _))
      refine (settles_typeOf ht helement ⟨rfl, rfl⟩).bind fun decl hdecl => ?_
      refine (ih hdecl).bind fun inner _ => ?_
      exact (settles_arrayLength hlength ⟨rfl, rfl⟩).bind fun _ _ => .ok trivial
    | pointer storage target =>
      have htarget := htype target (.head _)
      exact (settles_typeOf ht htarget ⟨rfl, rfl⟩).bind fun decl hdecl => ih hdecl
    | image i => exact (settles_imageType i).inside.bind fun _ _ => .ok trivial
    | sampledImage image =>
      have himage := htype image (.head _)
      refine (settles_typeOf ht himage ⟨rfl, rfl⟩).bind fun decl _ => ?_
      exact (settles_samplerType decl).inside.bind fun _ _ => .ok trivial
    | sampler => exact .error ⟨rfl, rfl⟩
    | vector component count =>
      have hcomponent := htype component (.head _)
      refine (settles_typeOf ht hcomponent ⟨rfl, rfl⟩).bind fun decl _ => ?_
      exact (settles_vectorType decl count).inside.bind fun _ _ => .ok trivial
    | void | bool | int | float | matrix | struct =>
      exact (TypeDecl.settles_scalarKind _).inside.bind fun _ _ => .ok trivial

theorem settles_orFault (layout? : Option Layout) :
    Settles (Layout.orFault layout?) (fun _ => True) (·.isDangling = false) := by
  cases layout? with
  | none => exact .error rfl
  | some layout => exact .ok trivial

theorem settles_floatLayout (width : UInt32) :
    Settles (floatLayout width) (fun _ => True) (·.isDangling = false) := by
  rw [floatLayout]
  split_ifs
  all_goals first | exact .ok trivial | exact .error rfl

theorem settles_intLayout (width : UInt32) (signed : Bool) :
    Settles (intLayout width signed) (fun _ => True) (·.isDangling = false) := by
  rw [intLayout]
  split_ifs
  all_goals first | exact .ok trivial | exact .error rfl

/-- A layout is found, or the fault is not that an id led out of the table. -/
theorem settles_layoutWithin (ht : t.Closed) (limit : Int) (levels : Nat) {type : TypeDecl}
    (htype : type.Within t.size) :
    Settles (t.layoutWithin limit levels type) (fun _ => True) (·.isDangling = false) := by
  induction levels generalizing type with
  | zero => exact .error rfl
  | succ n ih =>
    cases type with
    | array element length =>
      have helement := htype element (.head _)
      have hlength := htype length (.tail _ (.head _))
      refine (settles_typeOf ht helement (by rfl)).bind fun decl hdecl => ?_
      refine (ih hdecl).bind fun inner _ => ?_
      exact (settles_arrayLength hlength (by rfl)).bind fun _ _ => settles_orFault _
    | pointer storage target =>
      have htarget := htype target (.head _)
      exact (settles_typeOf ht htarget (by rfl)).bind fun decl hdecl => ih hdecl
    | matrix column count =>
      have hcolumn := htype column (.head _)
      refine (settles_typeOf ht hcolumn (by rfl)).bind fun decl hdecl => ?_
      exact (ih hdecl).bind fun inner _ => settles_orFault _
    | vector component count =>
      have hcomponent := htype component (.head _)
      refine (settles_typeOf ht hcomponent (by rfl)).bind fun decl hdecl => ?_
      exact (ih hdecl).bind fun inner _ => settles_orFault _
    | bool => exact .ok trivial
    | float width => exact (settles_floatLayout width).bind fun _ _ => .ok trivial
    | int width signed => exact (settles_intLayout width signed).bind fun _ _ => .ok trivial
    | _ => exact .error rfl

end IdTable

end ShaderInterface
