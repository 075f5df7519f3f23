import ShaderInterface.Proofs.TypeWalks

namespace ShaderInterface

variable {α β γ δ : Type} {σ : UInt32 → UInt32} {limit : Int} {size n : Nat}

/-- The type with every id in it renamed. Counts and widths are no ids. -/
def TypeDecl.rename (σ : UInt32 → UInt32) : TypeDecl → TypeDecl
  | vector component count => vector (σ component) count
  | matrix column count => matrix (σ column) count
  | image i => image { i with sampledType := σ i.sampledType }
  | sampledImage id => sampledImage (σ id)
  | array element length => array (σ element) (σ length)
  | struct members => struct (members.map σ)
  | pointer storage target => pointer storage (σ target)
  | type => type

def VariableDecl.rename (σ : UInt32 → UInt32) (v : VariableDecl) : VariableDecl :=
  { v with type := σ v.type, initializer := v.initializer.map σ }

def ConstantDecl.rename (σ : UInt32 → UInt32) (c : ConstantDecl) : ConstantDecl :=
  { c with type := σ c.type }

def Entry.rename (σ : UInt32 → UInt32) (e : Entry) : Entry :=
  { e with
    type? := e.type?.map (TypeDecl.rename σ)
    var? := e.var?.map (VariableDecl.rename σ)
    const? := e.const?.map (ConstantDecl.rename σ) }

theorem TypeDecl.rename_id (type : TypeDecl) : type.rename id = type := by
  cases type <;> simp [rename]

theorem Entry.rename_id (e : Entry) : e.rename id = e := by
  have htype : e.type?.map (TypeDecl.rename id) = e.type? := by
    simp [funext TypeDecl.rename_id]
  have hvar : e.var?.map (VariableDecl.rename id) = e.var? := by
    cases e.var? <;> simp [VariableDecl.rename]
  have hconst : e.const?.map (ConstantDecl.rename id) = e.const? := by
    cases e.const? <;> simp [ConstantDecl.rename]
  rw [rename, htype, hvar, hconst]

namespace Fault

/-- A number that is no id stays. -/
def renameId (σ : UInt32 → UInt32) (id : Int) : Int :=
  match Word.ofInt? id with
  | some w => (σ w).toNat
  | none => id

/-- The fault of a walk in a table of this size when the ids in it are renamed. -/
def rename (σ : UInt32 → UInt32) (size : Nat) : Fault → Fault
  | idOutOfBounds id _ => idOutOfBounds (renameId σ id) size
  | notAType id => notAType (renameId σ id)
  | notAConstant id => notAConstant (renameId σ id)
  | needsPadding type => needsPadding (type.rename σ)
  | unsupportedImage type => unsupportedImage (type.rename σ)
  | unsupportedSampledImage type => unsupportedSampledImage (type.rename σ)
  | unsupportedType type => unsupportedType (type.rename σ)
  | noLayout type => noLayout (type.rename σ)
  | f => f

theorem category_rename (f : Fault) : (f.rename σ size).category = f.category := by
  cases f <;> rfl

theorem renameId_toNat (id : UInt32) : renameId σ id.toNat = (σ id).toNat := by
  have hrange : (0 : Int) ≤ id.toNat ∧ (id.toNat : Int) < 0x100000000 := by
    have hlt := id.toNat_lt
    omega
  have hid : Word.ofInt? id.toNat = some id := by
    rw [Word.ofInt?, if_pos hrange, Int.toNat_natCast, UInt32.ofNat_toNat]
  rw [renameId, hid]

theorem renameId_id (n : Int) : renameId id n = n := by
  rw [renameId, Word.ofInt?]
  split_ifs with h
  · show ((UInt32.ofNat n.toNat).toNat : Int) = n
    rw [UInt32.toNat_ofNat_of_lt' (by rw [UInt32.size]; omega)]
    omega
  · rfl

theorem rename_id {f : Fault} (h : f.isDangling = false) : f.rename id size = f := by
  cases f with
  | idOutOfBounds => cases h
  | notAType | notAConstant => simp only [rename, renameId_id]
  | needsPadding | unsupportedImage | unsupportedSampledImage | unsupportedType | noLayout =>
    simp only [rename, TypeDecl.rename_id]
  | _ => rfl

end Fault

/-- Values that are related, or a fault and what `φ` makes of it. -/
inductive Corresponds (φ : Fault → Fault) (R : α → β → Prop) :
    Except Fault α → Except Fault β → Prop
  | ok {a : α} {b : β} (h : R a b) : Corresponds φ R (.ok a) (.ok b)
  | error (f : Fault) : Corresponds φ R (.error f) (.error (φ f))

namespace Corresponds

variable {φ : Fault → Fault} {R : α → β → Prop} {S : γ → δ → Prop}

theorem bind {x : Except Fault α} {y : Except Fault β} {f : α → Except Fault γ}
    {g : β → Except Fault δ} (h : Corresponds φ R x y)
    (hfg : ∀ a b, R a b → Corresponds φ S (f a) (g b)) : Corresponds φ S (x >>= f) (y >>= g) := by
  cases h with
  | ok h => exact hfg _ _ h
  | error f => exact .error f

theorem bind_eq {x y : Except Fault α} {f : α → Except Fault γ} {g : α → Except Fault δ}
    (h : Corresponds φ Eq x y) (hfg : ∀ a, Corresponds φ S (f a) (g a)) :
    Corresponds φ S (x >>= f) (y >>= g) :=
  h.bind fun a _ hab => hab ▸ hfg a

theorem eq_ok_iff {x y : Except Fault α} (h : Corresponds φ Eq x y) {a : α} :
    y = .ok a ↔ x = .ok a := by
  cases h with
  | ok h => rw [h]
  | error f => exact ⟨nofun, nofun⟩

/-- If `φ` keeps categories, then the same value comes out or a fault of the same category. -/
theorem mapError_category {x y : Except Fault α} (h : Corresponds φ Eq x y)
    (hφ : ∀ f, (φ f).category = f.category) :
    y.mapError Fault.category = x.mapError Fault.category := by
  cases h with
  | ok h => rw [h]
  | error f => exact congrArg Except.error (hφ f)

/-- If no id is renamed, a fault stays the same, unless an id led out of the first table. -/
theorem eq_of_notDangling {x y : Except Fault α} {post : α → Prop}
    (h : Corresponds (Fault.rename id size) Eq x y) (hx : Settles x post (·.isDangling = false)) :
    y = x := by
  cases h with
  | ok h => rw [h]
  | error f => exact congrArg Except.error (Fault.rename_id hx)

end Corresponds

theorem TypeDecl.scalarKind_rename (type : TypeDecl) :
    Corresponds (Fault.rename σ size) Eq type.scalarKind (type.rename σ).scalarKind := by
  cases type with
  | bool | int => exact .ok rfl
  | float width =>
    show Corresponds _ Eq (scalarKind (.float width)) (scalarKind (.float width))
    rw [scalarKind]
    split_ifs
    · exact .ok rfl
    · exact .ok rfl
    · exact .error _
  | _ => exact .error _

namespace IdTable

/-- On the ids that are `inside`, and on those to which types there lead, the table `t'` says under
the new names what `t` says under the old ones. -/
structure Mirrors (σ : UInt32 → UInt32) (inside : UInt32 → Prop) (t t' : IdTable) : Prop where
  get?_eq : ∀ id, inside id → t'.get? (σ id).toNat = (t.get? id.toNat).map (Entry.rename σ)
  closed : ∀ id e decl, inside id → t.get? id.toNat = some e → e.type? = some decl →
    ∀ part ∈ decl.ids, inside part

variable {inside : UInt32 → Prop} {t t' : IdTable} {id : UInt32}

theorem imageType_rename (i : ImageDecl) :
    Corresponds (Fault.rename σ size) Eq (imageType i)
      (imageType { i with sampledType := σ i.sampledType }) := by
  rw [imageType, imageType]
  dsimp only
  split
  · exact .ok rfl
  · exact .error (.unsupportedImage (.image i))

theorem samplerType_rename (type : TypeDecl) :
    Corresponds (Fault.rename σ size) Eq (samplerType type) (samplerType (type.rename σ)) := by
  cases type with
  | image i =>
    rw [TypeDecl.rename, samplerType, samplerType]
    dsimp only
    split
    · exact .ok rfl
    · exact .error (.unsupportedSampledImage (.image i))
  | _ => exact .error (.unsupportedSampledImage _)

theorem vectorType_rename (component : TypeDecl) (count : UInt32) :
    Corresponds (Fault.rename σ size) Eq (vectorType component count)
      (vectorType (component.rename σ) count) := by
  refine component.scalarKind_rename.bind_eq fun kind => ?_
  split
  · exact .ok rfl
  · exact .error _

theorem orFault_rename (layout? : Option Layout) :
    Corresponds (Fault.rename σ size) Eq (Layout.orFault layout?) (Layout.orFault layout?) := by
  cases layout? with
  | none => exact .error .layoutTooLarge
  | some layout => exact .ok rfl

theorem floatLayout_rename (width : UInt32) :
    Corresponds (Fault.rename σ size) Eq (floatLayout width) (floatLayout width) := by
  rw [floatLayout]
  split_ifs
  all_goals first | exact .ok rfl | exact .error (.floatWidth width)

theorem intLayout_rename (width : UInt32) (signed : Bool) :
    Corresponds (Fault.rename σ size) Eq (intLayout width signed) (intLayout width signed) := by
  rw [intLayout]
  split_ifs
  all_goals first | exact .ok rfl | exact .error (.intWidth width)

theorem totalSize_map {φ : Fault → Fault} {size size' : UInt32 → Except Fault (Option Nat)}
    {members : List UInt32} (h : ∀ id ∈ members, Corresponds φ Eq (size id) (size' (σ id))) :
    Corresponds φ Eq (totalSize size members) (totalSize size' (members.map σ)) := by
  induction members with
  | nil => exact .ok rfl
  | cons id rest ih =>
    obtain ⟨hid, hrest⟩ := List.forall_mem_cons.1 h
    rw [List.map_cons, totalSize, totalSize]
    refine hid.bind_eq fun size? => ?_
    cases size? with
    | none => exact .ok rfl
    | some n => exact (ih hrest).bind_eq fun _ => .ok rfl

namespace Mirrors

theorem lookup (h : t.Mirrors σ inside t') (hid : inside id) :
    Corresponds (Fault.rename σ t'.size)
      (fun e e' => t.get? id.toNat = some e ∧ e' = e.rename σ)
      (t.lookup id.toNat) (t'.lookup (σ id).toNat) := by
  rw [IdTable.lookup, IdTable.lookup, h.get?_eq id hid]
  cases he : t.get? id.toNat with
  | none =>
    show Corresponds _ _ _ (.error (.idOutOfBounds (σ id).toNat t'.size))
    rw [← Fault.renameId_toNat]
    exact .error (.idOutOfBounds id.toNat t.size)
  | some e => exact .ok ⟨rfl, rfl⟩

theorem typeOf (h : t.Mirrors σ inside t') (hid : inside id) :
    Corresponds (Fault.rename σ t'.size)
      (fun decl decl' => (∀ part ∈ decl.ids, inside part) ∧ decl' = decl.rename σ)
      (t.typeOf id.toNat) (t'.typeOf (σ id).toNat) := by
  refine (h.lookup hid).bind fun e e' he => ?_
  obtain ⟨he, rfl⟩ := he
  rw [Entry.rename]
  cases htype : e.type? with
  | none =>
    show Corresponds _ _ _ (.error (.notAType (σ id).toNat))
    rw [← Fault.renameId_toNat]
    exact .error (.notAType id.toNat)
  | some decl => exact .ok ⟨h.closed id e decl hid he htype, rfl⟩

theorem typeOf_bind {R : α → β → Prop} {f : TypeDecl → Except Fault α}
    {g : TypeDecl → Except Fault β} (h : t.Mirrors σ inside t') (hid : inside id)
    (hfg : ∀ decl : TypeDecl, (∀ part ∈ decl.ids, inside part) →
      Corresponds (Fault.rename σ t'.size) R (f decl) (g (decl.rename σ))) :
    Corresponds (Fault.rename σ t'.size) R (t.typeOf id.toNat >>= f)
      (t'.typeOf (σ id).toNat >>= g) := by
  refine (h.typeOf hid).bind fun decl decl' hdecl => ?_
  obtain ⟨hdecl, rfl⟩ := hdecl
  exact hfg decl hdecl

theorem arrayLength (h : t.Mirrors σ inside t') (hid : inside id) :
    Corresponds (Fault.rename σ t'.size) Eq (t.arrayLength id.toNat)
      (t'.arrayLength (σ id).toNat) := by
  have hconst : Corresponds (Fault.rename σ t'.size) (fun c c' => c' = c.rename σ)
      (t.constantOf id.toNat) (t'.constantOf (σ id).toNat) := by
    refine (h.lookup hid).bind fun e e' he => ?_
    obtain ⟨he, rfl⟩ := he
    rw [Entry.rename]
    have hnone : Corresponds (Fault.rename σ t'.size) (fun c c' => c' = ConstantDecl.rename σ c)
        (.error (.notAConstant id.toNat)) (.error (.notAConstant (σ id).toNat)) := by
      rw [← Fault.renameId_toNat]
      exact .error (.notAConstant id.toNat)
    rcases e.const? with _ | ⟨type, _ | ⟨first, rest⟩⟩
    · exact hnone
    · exact hnone
    · exact .ok rfl
  refine hconst.bind fun c c' hc => ?_
  subst hc
  obtain ⟨type, _ | ⟨first, rest⟩⟩ := c
  · exact .error .noValue
  · exact .ok rfl

theorem allTyped (h : t.Mirrors σ inside t') {members : List UInt32}
    (hmembers : ∀ id ∈ members, inside id) :
    Corresponds (Fault.rename σ t'.size) Eq (t.allTyped members)
      (t'.allTyped (members.map σ)) := by
  induction members with
  | nil => exact .ok rfl
  | cons id rest ih =>
    obtain ⟨hid, hrest⟩ := List.forall_mem_cons.1 hmembers
    rw [List.map_cons, IdTable.allTyped, IdTable.allTyped]
    refine (h.lookup hid).bind fun e e' he => ?_
    obtain ⟨-, rfl⟩ := he
    rw [Entry.rename]
    cases e.type? with
    | none => exact .ok rfl
    | some decl => exact ih hrest

theorem sizeWithin (h : t.Mirrors σ inside t') (limit : Int) (n : Nat) {type : TypeDecl}
    (htype : ∀ part ∈ type.ids, inside part) :
    Corresponds (Fault.rename σ t'.size) Eq (t.sizeWithin limit n type)
      (t'.sizeWithin limit n (type.rename σ)) := by
  induction n generalizing type with
  | zero => exact .error _
  | succ n ih =>
    -- What a pointer does with its target is what a struct does with each of its members.
    have hwalk : ∀ id ∈ type.ids, Corresponds (Fault.rename σ t'.size) Eq
        (t.typeOf id.toNat >>= t.sizeWithin limit n)
        (t'.typeOf (σ id).toNat >>= t'.sizeWithin limit n) := by
      intro id hid
      exact h.typeOf_bind (htype id hid) fun decl hdecl => ih hdecl
    cases type with
    | array element length =>
      refine h.typeOf_bind (htype element (.head _)) fun decl hdecl => ?_
      refine (ih hdecl).bind_eq fun size? => ?_
      cases size? with
      | none => exact .ok rfl
      | some size =>
        exact (h.arrayLength (htype length (.tail _ (.head _)))).bind_eq fun _ => .ok rfl
    | pointer storage target => exact hwalk target (.head _)
    | struct members =>
      refine (h.allTyped htype).bind_eq fun typed => ?_
      cases typed with
      | false => exact .ok rfl
      | true => exact totalSize_map hwalk
    | matrix column count =>
      show Corresponds _ Eq _ (t'.sizeWithin limit (n + 1) (.matrix (σ column) count))
      rw [IdTable.sizeWithin, IdTable.sizeWithin]
      split
      · exact .ok rfl
      · exact .error _
    | vector component count =>
      show Corresponds _ Eq _ (t'.sizeWithin limit (n + 1) (.vector (σ component) count))
      rw [IdTable.sizeWithin, IdTable.sizeWithin]
      split
      · exact .ok rfl
      · exact .error _
    | _ => exact .error (.needsPadding _)

theorem shaderTypeWithin (h : t.Mirrors σ inside t') (limit : Int) (n : Nat) {type : TypeDecl}
    (htype : ∀ part ∈ type.ids, inside part) :
    Corresponds (Fault.rename σ t'.size) Eq (t.shaderTypeWithin limit n type)
      (t'.shaderTypeWithin limit n (type.rename σ)) := by
  induction n generalizing type with
  | zero => exact .error _
  | succ n ih =>
    cases type with
    | array element length =>
      refine h.typeOf_bind (htype element (.head _)) fun decl hdecl => ?_
      refine (ih hdecl).bind_eq fun inner => ?_
      exact (h.arrayLength (htype length (.tail _ (.head _)))).bind_eq fun _ => .ok rfl
    | pointer storage target =>
      refine h.typeOf_bind (htype target (.head _)) fun decl hdecl => ?_
      exact ih hdecl
    | image i => exact (imageType_rename i).bind_eq fun _ => .ok rfl
    | sampledImage image =>
      refine h.typeOf_bind (htype image (.head _)) fun decl _ => ?_
      exact (samplerType_rename decl).bind_eq fun _ => .ok rfl
    | sampler => exact .error .separateSampler
    | vector component count =>
      refine h.typeOf_bind (htype component (.head _)) fun decl _ => ?_
      exact (vectorType_rename decl count).bind_eq fun _ => .ok rfl
    | void | bool | int | float | matrix | struct =>
      exact (TypeDecl.scalarKind_rename _).bind_eq fun _ => .ok rfl

theorem layoutWithin (h : t.Mirrors σ inside t') (limit : Int) (n : Nat) {type : TypeDecl}
    (htype : ∀ part ∈ type.ids, inside part) :
    Corresponds (Fault.rename σ t'.size) Eq (t.layoutWithin limit n type)
      (t'.layoutWithin limit n (type.rename σ)) := by
  induction n generalizing type with
  | zero => exact .error _
  | succ n ih =>
    cases type with
    | array element length =>
      refine h.typeOf_bind (htype element (.head _)) fun decl hdecl => ?_
      refine (ih hdecl).bind_eq fun inner => ?_
      refine (h.arrayLength (htype length (.tail _ (.head _)))).bind_eq fun count => ?_
      exact orFault_rename _
    | pointer storage target =>
      refine h.typeOf_bind (htype target (.head _)) fun decl hdecl => ?_
      exact ih hdecl
    | matrix column count =>
      refine h.typeOf_bind (htype column (.head _)) fun decl hdecl => ?_
      exact (ih hdecl).bind_eq fun inner => orFault_rename _
    | vector component count =>
      refine h.typeOf_bind (htype component (.head _)) fun decl hdecl => ?_
      exact (ih hdecl).bind_eq fun inner => orFault_rename _
    | bool => exact .ok rfl
    | float width => exact (floatLayout_rename width).bind_eq fun _ => .ok rfl
    | int width signed => exact (intLayout_rename width signed).bind_eq fun _ => .ok rfl
    | _ => exact .error (.noLayout _)

end Mirrors

end IdTable

end ShaderInterface
