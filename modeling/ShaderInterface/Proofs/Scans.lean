import ShaderInterface.Interface.InputLayout
import ShaderInterface.Interface.Reflection
import ShaderInterface.Proofs.TypeWalks

namespace ShaderInterface

theorem Entry.settles_firstLiteral (e : Entry) (kind : DecorationKind) :
    Settles (e.firstLiteral kind) (fun _ => True) Fault.Inside := by
  rw [firstLiteral]
  split
  · exact .ok trivial
  · exact .ok trivial
  · exact .error ⟨rfl, rfl⟩

namespace IdTable

variable {t : IdTable} {v : DeclaredVariable} {storage : StorageClass}

theorem get?_of_mem_declaredVariables (h : v ∈ t.declaredVariables storage) :
    t.get? v.id = some v.entry ∧ v.entry.var? = some v.decl ∧ v.decl.storage = storage := by
  obtain ⟨⟨e, id⟩, hmem, hsome⟩ := List.mem_filterMap.1 h
  obtain ⟨decl, hdecl, rfl⟩ := Option.map_eq_some_iff.1 hsome
  obtain ⟨hvar, hstorage⟩ := Option.filter_eq_some_iff.1 hdecl
  refine ⟨?_, hvar, eq_of_beq hstorage⟩
  rw [get?_natCast, ← Array.getElem?_toList]
  exact List.mem_zipIdx_iff_getElem?.1 hmem

theorem type_lt_of_mem_declaredVariables (ht : t.Closed) (h : v ∈ t.declaredVariables storage) :
    v.decl.type.toNat < t.size := by
  obtain ⟨hentry, hvar, -⟩ := get?_of_mem_declaredVariables h
  exact (ht v.id v.entry hentry).var_ids v.decl hvar v.decl.type (.head _)

theorem settles_locatedVariables (t : IdTable) (storage : StorageClass) :
    Settles (t.locatedVariables storage).result
      (fun located => ∀ p ∈ located, p.2 ∈ t.declaredVariables storage) Fault.Inside := by
  refine Settles.result_collect fun v hv => ?_
  rw [location?]
  refine Settles.result_bind (v.entry.settles_firstLiteral .location) fun n? _ => ?_
  cases n? with
  | none => exact fun p hp => nomatch hp
  | some n =>
    intro p hp
    cases hp
    exact hv

theorem settles_located (ht : t.Closed) (limit : Int) (model : ExecutionModel)
    (storage : StorageClass) :
    Settles (t.located limit model storage).result (fun _ => True) Fault.Inside := by
  refine (settles_locatedVariables t storage).result_bind fun located hlocated => ?_
  refine Settles.result_mapM fun p hp => ?_
  have htype := type_lt_of_mem_declaredVariables ht (hlocated p hp)
  refine (settles_typeOf ht htype ⟨rfl, rfl⟩).result_lift.result_bind fun type htype => ?_
  exact (settles_shaderTypeWithin ht limit _ htype).result_lift.result_bind fun _ _ => .ok trivial

theorem settles_slot? (v : DeclaredVariable) :
    Settles (slot? v).result (fun _ => True) Fault.Inside := by
  refine (v.entry.settles_firstLiteral .binding).result_lift.result_bind fun binding? _ => ?_
  refine (v.entry.settles_firstLiteral .descriptorSet).result_lift.result_bind fun set? _ => ?_
  split
  · exact .ok trivial
  · exact .ok trivial

theorem settles_bound {α : Type} {post : α → Prop}
    {resolve : DeclaredVariable → Slot → Except Fault α}
    (hresolve : ∀ v ∈ t.declaredVariables storage, ∀ slot,
      Settles (resolve v slot) post Fault.Inside) :
    Settles (t.bound storage resolve).result (fun found => ∀ a ∈ found, post a) Fault.Inside := by
  refine Settles.result_collect fun v hv => ?_
  refine (settles_slot? v).result_bind fun slot? _ => ?_
  cases slot? with
  | none => exact .ok fun a ha => nomatch ha
  | some slot =>
    refine (hresolve v hv slot).result_lift.result_bind fun a hpost => .ok fun b hb => ?_
    cases hb
    exact hpost

theorem settles_uniform (ht : t.Closed) (limit : Int) (model : ExecutionModel)
    (hv : v ∈ t.declaredVariables storage) (slot : Slot) :
    Settles (t.uniform limit model v slot) (fun _ => True) Fault.Inside := by
  have htype := type_lt_of_mem_declaredVariables ht hv
  refine (settles_typeOf ht htype ⟨rfl, rfl⟩).bind fun type htype => ?_
  exact (settles_shaderTypeWithin ht limit _ htype).bind fun _ _ => .ok trivial

theorem settles_uniformBlock (ht : t.Closed) (limit : Int) (model : ExecutionModel)
    (hv : v ∈ t.declaredVariables storage) (slot : Slot) :
    Settles (t.uniformBlock limit model v slot) (fun _ => True) Fault.Inside := by
  have htype := type_lt_of_mem_declaredVariables ht hv
  refine (settles_typeOf ht htype ⟨rfl, rfl⟩).bind fun type htype => ?_
  cases type with
  | pointer _ target =>
    have htarget := htype target (.head _)
    refine (settles_lookup htarget).bind fun e _ => ?_
    refine (settles_typeOf ht htarget ⟨rfl, rfl⟩).bind fun decl hdecl => ?_
    cases decl with
    | struct members =>
      refine (settles_sizeWithin ht limit _ hdecl).bind fun size? _ => ?_
      cases size? with
      | none => exact .error ⟨rfl, rfl⟩
      | some size => exact .ok trivial
    | _ => exact .error ⟨rfl, rfl⟩
  | _ => exact .error ⟨rfl, rfl⟩

theorem settles_uniforms (ht : t.Closed) (limit : Int) (model : ExecutionModel) :
    Settles (t.uniforms limit model).result (fun _ => True) Fault.Inside :=
  (settles_bound fun _ hv slot => settles_uniform ht limit model hv slot).forget

theorem settles_uniformBlocks (ht : t.Closed) (limit : Int) (model : ExecutionModel) :
    Settles (t.uniformBlocks limit model).result (fun _ => True) Fault.Inside :=
  (settles_bound fun _ hv slot => settles_uniformBlock ht limit model hv slot).forget

theorem isDangling_of_columnFault? {names : List String} {fault : Fault}
    (h : RecordLayout.columnFault? names = some fault) : fault.isDangling = false := by
  rw [RecordLayout.columnFault?] at h
  split_ifs at h <;> cases h <;> rfl

theorem settles_pack (parts : List (String × Layout)) :
    Settles (RecordLayout.pack parts) (fun _ => True) (·.isDangling = false) := by
  rw [RecordLayout.pack]
  split
  · next fault hfault => exact .error (isDangling_of_columnFault? hfault)
  · split
    · exact .error rfl
    · exact .ok trivial

theorem settles_inputLayout (ht : t.Closed) (limit : Int) :
    Settles (t.inputLayout limit).result (fun _ => True) (·.isDangling = false) := by
  have hlocated := (settles_locatedVariables t .input).mono (fun _ h => h) fun _ hfault => hfault.2
  refine hlocated.result_bind fun located hmem => ?_
  refine Settles.result_bind (Settles.result_mapM fun p hp => ?_) fun parts _ => settles_pack parts
  have htype := type_lt_of_mem_declaredVariables ht (hmem p (List.mem_mergeSort.1 hp))
  refine (settles_typeOf ht htype (by rfl)).result_lift.result_bind fun type htype => ?_
  exact (settles_layoutWithin ht limit _ htype).result_lift.result_bind fun _ _ => .ok trivial

end IdTable

theorem Resource.exists_descriptor? (r : Resource) : ∃ d?, r.descriptor? = .ok d? := by
  cases r with
  | block b => exact ⟨_, rfl⟩
  | uniform u =>
    rw [descriptor?]
    split
    · next hopaque =>
      cases hbase : u.type.innermost with
      | scalar kind => rw [hbase] at hopaque; cases hopaque
      | vector kind size => rw [hbase] at hopaque; cases hopaque
      | image shape => cases shape <;> exact ⟨_, rfl⟩
      | sampler shape => cases shape <;> exact ⟨_, rfl⟩
      | shadowSampler shape _ => exact ⟨_, rfl⟩
    · exact ⟨none, rfl⟩

theorem Resource.settles_descriptors (l : List Resource) {blame : Fault → Prop} :
    Settles (Traced.collect reportedDescriptor? l).result (fun _ => True) blame := by
  have hfound : Settles (Traced.collect reportedDescriptor? l).result
      (fun found => ∀ d ∈ found, True) blame := by
    refine Settles.result_collect fun r _ => ?_
    obtain ⟨d?, hd⟩ := r.exists_descriptor?
    rw [reportedDescriptor?, hd]
    cases d? <;> exact .ok fun _ _ => trivial
  exact hfound.forget

/-- Nothing but the module is to blame if there is no reflection of it. -/
theorem Module.settles_reflect {m : Module} (hm : m.ids.Closed) (limit : Int) :
    Settles (m.reflect limit).result (fun _ => True) Fault.Inside := by
  have hlocated := IdTable.settles_located hm limit m.entryPoint.model
  refine (hlocated .input).result_bind fun inputs _ => ?_
  refine (hlocated .output).result_bind fun outputs _ => ?_
  refine (IdTable.settles_uniforms hm limit _).result_bind fun uniforms _ => ?_
  refine (IdTable.settles_uniformBlocks hm limit _).result_bind fun blocks _ => ?_
  exact (Resource.settles_descriptors _).result_bind fun found _ => .ok trivial

end ShaderInterface
