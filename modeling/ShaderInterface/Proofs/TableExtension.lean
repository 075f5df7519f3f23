import ShaderInterface.Interface.Reflection
import ShaderInterface.Proofs.Correspondence
import ShaderInterface.Proofs.DecodedTable

namespace ShaderInterface

variable {α β : Type}

namespace Settles

theorem bind_congr {x : Except Fault α} {post : α → Prop} {blame : Fault → Prop}
    {f g : α → Except Fault β} (h : Settles x post blame) (hfg : ∀ a, post a → f a = g a) :
    x >>= f = x >>= g := by
  cases x with
  | ok a => exact hfg a h
  | error fault => rfl

theorem traced_bind_congr {x : Traced α} {post : α → Prop} {blame : Fault → Prop}
    {f g : α → Traced β} (h : Settles x.result post blame) (hfg : ∀ a, post a → f a = g a) :
    x >>= f = x >>= g := by
  cases hx : x.result with
  | ok a => rw [Traced.bind_of_ok hx, Traced.bind_of_ok hx, hfg a (h.of_eq_ok hx)]
  | error fault => rw [Traced.bind_of_error hx, Traced.bind_of_error hx]

end Settles

namespace Traced

theorem collect_congr {f g : α → Traced (Option β)} {l : List α} (h : ∀ a ∈ l, f a = g a) :
    collect f l = collect g l := by
  induction l with
  | nil => rfl
  | cons a rest ih =>
    obtain ⟨ha, hrest⟩ := List.forall_mem_cons.1 h
    rw [collect, collect, ha, ih hrest]

theorem mapM_congr {f g : α → Traced β} {l : List α} (h : ∀ a ∈ l, f a = g a) :
    l.mapM f = l.mapM g := by
  induction l with
  | nil => rfl
  | cons a rest ih =>
    obtain ⟨ha, hrest⟩ := List.forall_mem_cons.1 h
    rw [List.mapM_cons, List.mapM_cons, ha, ih hrest]

end Traced

namespace IdTable

/-- The table with room for `n` further ids of which nothing is known. -/
def extend (t : IdTable) (n : Nat) : IdTable :=
  ⟨t.entries ++ Array.replicate n ({} : Entry)⟩

variable {t : IdTable} {k : Nat} {limit : Int} {storage : StorageClass} {v : DeclaredVariable}

theorem size_extend (t : IdTable) (n : Nat) : (t.extend n).size = t.size + n := by
  simp [extend, size]

theorem get?_extend_of_lt (hk : k < t.size) (n : Nat) : (t.extend n).get? k = t.get? k := by
  rw [get?_natCast, get?_natCast, extend, Array.getElem?_append_left hk]

theorem get?_extend_of_le {n : Nat} (hk : t.size ≤ k) (hn : k < t.size + n) :
    (t.extend n).get? k = some {} := by
  have hlt : k - t.entries.size < n := by
    rw [size] at hk hn
    omega
  rw [get?_natCast, extend, Array.getElem?_append_right hk, Array.getElem?_replicate, if_pos hlt]

theorem declaredVariables_extend (t : IdTable) (n : Nat) (storage : StorageClass) :
    (t.extend n).declaredVariables storage = t.declaredVariables storage := by
  rw [declaredVariables, extend, Array.toList_append, Array.toList_replicate, List.zipIdx_append,
    List.filterMap_append, declaredVariables, List.append_right_eq_self, List.filterMap_eq_nil_iff]
  rintro ⟨e, k⟩ he
  have hblank : e = {} := List.eq_of_mem_replicate (List.fst_mem_of_mem_zipIdx he)
  rw [hblank]
  rfl

theorem mirrors_extend (ht : t.Closed) (n : Nat) :
    t.Mirrors id (·.toNat < t.size) (t.extend n) where
  get?_eq id hid := by
    show (t.extend n).get? id.toNat = _
    rw [get?_extend_of_lt hid]
    cases t.get? id.toNat with
    | none => rfl
    | some e => exact congrArg some e.rename_id.symm
  closed id e decl _ he hdecl := (ht id.toNat e he).type_ids decl hdecl

theorem lookup_extend (hk : k < t.size) (n : Nat) : (t.extend n).lookup k = t.lookup k := by
  obtain ⟨e, he⟩ := exists_get?_of_lt hk
  rw [lookup, lookup, get?_extend_of_lt hk, he]

theorem typeOf_extend (hk : k < t.size) (n : Nat) : (t.extend n).typeOf k = t.typeOf k := by
  rw [typeOf, typeOf, lookup_extend hk]

theorem bound_extend {resolve resolve' : DeclaredVariable → Slot → Except Fault α} (n : Nat)
    (h : ∀ v ∈ t.declaredVariables storage, ∀ slot, resolve' v slot = resolve v slot) :
    (t.extend n).bound storage resolve' = t.bound storage resolve := by
  rw [bound, bound, declaredVariables_extend]
  refine Traced.collect_congr fun v hv => bind_congr fun slot? => ?_
  cases slot? with
  | none => rfl
  | some slot =>
    dsimp only
    rw [h v hv slot]

section Closed

variable (ht : t.Closed) (n : Nat)

include ht

theorem sizeOf_extend (limit : Int) {type : TypeDecl} (htype : type.Within t.size) :
    (t.extend n).sizeOf limit type = t.sizeOf limit type := by
  have hwalk := (mirrors_extend ht n).sizeWithin limit (levels limit) htype
  rw [type.rename_id] at hwalk
  exact hwalk.eq_of_notDangling (settles_sizeWithin ht limit _ htype).notDangling

theorem shaderTypeOf_extend (limit : Int) {type : TypeDecl} (htype : type.Within t.size) :
    (t.extend n).shaderTypeOf limit type = t.shaderTypeOf limit type := by
  have hwalk := (mirrors_extend ht n).shaderTypeWithin limit (levels limit) htype
  rw [type.rename_id] at hwalk
  exact hwalk.eq_of_notDangling (settles_shaderTypeWithin ht limit _ htype).notDangling

theorem layoutOf_extend (limit : Int) {type : TypeDecl} (htype : type.Within t.size) :
    (t.extend n).layoutOf limit type = t.layoutOf limit type := by
  have hwalk := (mirrors_extend ht n).layoutWithin limit (levels limit) htype
  rw [type.rename_id] at hwalk
  exact hwalk.eq_of_notDangling (settles_layoutWithin ht limit _ htype)

theorem typeOf_bind_extend (hk : k < t.size) {f g : TypeDecl → Except Fault α}
    (hfg : ∀ type : TypeDecl, type.Within t.size → f type = g type) :
    (t.extend n).typeOf k >>= f = t.typeOf k >>= g := by
  have hfound : Settles (t.typeOf k) (TypeDecl.Within t.size) fun _ => True :=
    settles_typeOf ht hk trivial
  rw [typeOf_extend hk]
  exact hfound.bind_congr hfg

theorem lift_typeOf_bind_extend (hk : k < t.size) {f g : TypeDecl → Traced α}
    (hfg : ∀ type : TypeDecl, type.Within t.size → f type = g type) :
    liftM ((t.extend n).typeOf k) >>= f = liftM (t.typeOf k) >>= g := by
  have hfound : Settles (t.typeOf k) (TypeDecl.Within t.size) fun _ => True :=
    settles_typeOf ht hk trivial
  rw [typeOf_extend hk]
  exact hfound.result_lift.traced_bind_congr hfg

theorem located_extend (limit : Int) (model : ExecutionModel) (storage : StorageClass) :
    (t.extend n).located limit model storage = t.located limit model storage := by
  rw [located, located, locatedVariables, locatedVariables, declaredVariables_extend]
  refine (settles_locatedVariables t storage).traced_bind_congr fun located hlocated => ?_
  refine Traced.mapM_congr fun p hp => ?_
  have hid := type_lt_of_mem_declaredVariables ht (hlocated p hp)
  refine lift_typeOf_bind_extend ht n hid fun type htype => ?_
  rw [shaderTypeOf_extend ht n limit htype]

theorem uniforms_extend (limit : Int) (model : ExecutionModel) :
    (t.extend n).uniforms limit model = t.uniforms limit model := by
  refine bound_extend n fun v hv slot => ?_
  refine typeOf_bind_extend ht n (type_lt_of_mem_declaredVariables ht hv) fun type htype => ?_
  rw [shaderTypeOf_extend ht n limit htype]

theorem uniformBlocks_extend (limit : Int) (model : ExecutionModel) :
    (t.extend n).uniformBlocks limit model = t.uniformBlocks limit model := by
  refine bound_extend n fun v hv slot => ?_
  refine typeOf_bind_extend ht n (type_lt_of_mem_declaredVariables ht hv) fun type htype => ?_
  cases type with
  | pointer storage target =>
    have htarget := htype target (.head _)
    dsimp only
    -- The name of a block is looked up before it is known to be a struct.
    rw [lookup_extend htarget]
    refine bind_congr fun entry => typeOf_bind_extend ht n htarget fun type htype => ?_
    cases type with
    | struct members =>
      dsimp only
      rw [sizeOf_extend ht n limit htype]
    | _ => rfl
  | _ => rfl

theorem inputLayout_extend (limit : Int) :
    (t.extend n).inputLayout limit = t.inputLayout limit := by
  rw [inputLayout, inputLayout, locatedVariables, locatedVariables, declaredVariables_extend]
  refine (settles_locatedVariables t .input).traced_bind_congr fun located hlocated => ?_
  have hparts : ∀ p ∈ located.mergeSort fun a b => a.1 ≤ b.1, p.2.decl.type.toNat < t.size :=
    fun p hp => type_lt_of_mem_declaredVariables ht (hlocated p (List.mem_mergeSort.1 hp))
  refine congrArg (· >>= _) (Traced.mapM_congr fun p hp => ?_)
  refine lift_typeOf_bind_extend ht n (hparts p hp) fun type htype => ?_
  rw [layoutOf_extend ht n limit htype]

end Closed

end IdTable

theorem Module.reflect_extend {m m' : Module} (hm : m.ids.Closed) {n : Nat}
    (hids : m'.ids = m.ids.extend n) (hpoint : m'.entryPoint? = m.entryPoint?) (limit : Int) :
    m'.reflect limit = (fun r => { r with source := m' }) <$> m.reflect limit := by
  have hpoint' : m'.entryPoint = m.entryPoint := congrArg (·.getD .default) hpoint
  rw [reflect, reflect, hids, hpoint', IdTable.inputs, IdTable.outputs, IdTable.located_extend hm,
    IdTable.located_extend hm, IdTable.uniforms_extend hm, IdTable.uniformBlocks_extend hm]
  simp only [map_bind, map_pure, IdTable.inputs, IdTable.outputs]

end ShaderInterface
