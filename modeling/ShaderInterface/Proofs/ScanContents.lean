import ShaderInterface.Proofs.ByteOrder
import ShaderInterface.Proofs.CollectedAnswers
import ShaderInterface.Proofs.Scans

namespace ShaderInterface

/-- The decorations without which a variable of the class is left out of the interface. The other
classes have no part in it. -/
def StorageClass.required : StorageClass → List DecorationKind
  | input | output => [.location]
  | uniformConstant | uniform => [.binding, .descriptorSet]
  | _ => []

namespace Entry

/-- No decoration in front of this one is of the kind. -/
def First (e : Entry) (kind : DecorationKind) (d : Decoration) : Prop :=
  ∃ before after, e.decorations = before ++ d :: after ∧ d.kind = kind ∧
    ∀ b ∈ before, b.kind ≠ kind

/-- The first decoration of the kind begins with `n`. -/
def Gives (e : Entry) (kind : DecorationKind) (n : Int) : Prop :=
  ∃ d, e.First kind d ∧ d.literals.head? = some n

/-- The first decoration of the kind has no value. -/
def Valueless (e : Entry) (kind : DecorationKind) : Prop :=
  ∃ d, e.First kind d ∧ d.literals = []

theorem decoration?_eq_some_iff {e : Entry} {kind : DecorationKind} {d : Decoration} :
    e.decoration? kind = some d ↔ e.First kind d := by
  rw [decoration?, List.find?_eq_some_iff_append]
  constructor
  · rintro ⟨hkind, before, after, he, hbefore⟩
    exact ⟨before, after, he, eq_of_beq hkind, fun b hb => by simpa using hbefore b hb⟩
  · rintro ⟨before, after, he, hkind, hbefore⟩
    exact ⟨beq_iff_eq.2 hkind, before, after, he, fun b hb => by simpa using hbefore b hb⟩

theorem First.unique {e : Entry} {kind : DecorationKind} {d d' : Decoration}
    (h : e.First kind d) (h' : e.First kind d') : d = d' := by
  rw [← decoration?_eq_some_iff] at h h'
  exact Option.some.inj (h.symm.trans h')

theorem isSome_decoration?_iff {e : Entry} {kind : DecorationKind} :
    (e.decoration? kind).isSome = true ↔ ∃ d ∈ e.decorations, d.kind = kind := by
  simp [decoration?]

theorem settles_firstLiteral_exact (e : Entry) (kind : DecorationKind) :
    Settles (e.firstLiteral kind)
      (fun n? => ¬ e.Valueless kind ∧ ((e.decoration? kind).isSome = true ↔ n?.isSome = true) ∧
        ∀ n ∈ n?, e.Gives kind n)
      fun _ => e.Valueless kind := by
  rw [firstLiteral]
  cases hd : e.decoration? kind with
  | none =>
    refine .ok ⟨?_, by simp, ?_⟩
    · rintro ⟨d, hd', -⟩
      cases hd.symm.trans (decoration?_eq_some_iff.2 hd')
    · rintro n hn
      cases hn
  | some d =>
    have hfirst := decoration?_eq_some_iff.1 hd
    obtain ⟨k, literals⟩ := d
    cases literals with
    | nil => exact .error ⟨_, hfirst, rfl⟩
    | cons n rest =>
      refine .ok ⟨?_, by simp, fun m hm => ⟨_, hfirst, hm⟩⟩
      rintro ⟨d, hd', hempty⟩
      cases hfirst.unique hd'
      cases hempty

end Entry

def DeclaredVariable.Decorated (v : DeclaredVariable) : Prop :=
  ∀ kind ∈ v.decl.storage.required, ∃ d ∈ v.entry.decorations, d.kind = kind

theorem DeclaredVariable.decorated_iff {v : DeclaredVariable} :
    v.Decorated ↔ ∀ kind ∈ v.decl.storage.required, (v.entry.decoration? kind).isSome = true := by
  simp only [Decorated, Entry.isSome_decoration?_iff]

instance (v : DeclaredVariable) : Decidable v.Decorated :=
  decidable_of_iff _ v.decorated_iff.symm

namespace IdTable

/-- What the table says of the variable and of its id. -/
def HasVariable (t : IdTable) (v : DeclaredVariable) : Prop :=
  t.get? v.id = some v.entry ∧ v.entry.var? = some v.decl

def HasType (t : IdTable) (id : UInt32) (type : TypeDecl) : Prop :=
  ∃ e, t.get? id.toNat = some e ∧ e.type? = some type

/-- The id has a type that the shading language knows as `type`. -/
def Names (t : IdTable) (limit : Int) (id : UInt32) (type : ShaderType) : Prop :=
  ∃ decl, t.HasType id decl ∧ t.shaderTypeOf limit decl = .ok type

/-- The id is a pointer to a struct of this name and size. -/
def PointsToBlock (t : IdTable) (limit : Int) (id : UInt32) (name? : Option String) (size : Nat) :
    Prop :=
  ∃ storage target e members, t.HasType id (.pointer storage target) ∧
    t.get? target.toNat = some e ∧ e.type? = some (.struct members) ∧
    t.sizeOf limit (.struct members) = .ok (some size) ∧ e.name? = name?

/-- The type of the variable is one that a variable of its class can be reported with. -/
def Resolves (t : IdTable) (limit : Int) (decl : VariableDecl) : Prop :=
  match decl.storage with
  | .uniform => ∃ name? size, t.PointsToBlock limit decl.type name? size
  | _ => ∃ type, t.Names limit decl.type type

/-- Why a variable makes the whole reflection fail. -/
inductive Spoils (t : IdTable) (limit : Int) (v : DeclaredVariable) : Prop
  | valueless (kind : DecorationKind) (required : kind ∈ v.decl.storage.required)
      (valueless : v.entry.Valueless kind)
  | unresolved (interface : v.decl.storage.required ≠ []) (decorated : v.Decorated)
      (unresolved : ¬ t.Resolves limit v.decl)

structure ShowsLocated (t : IdTable) (limit : Int) (model : ExecutionModel) (v : DeclaredVariable)
    (r : LocatedVariable) : Prop where
  model_eq : r.model = model
  location : v.entry.Gives .location r.location
  name_eq : r.name? = v.entry.name?
  type : t.Names limit v.decl.type r.type

structure ShowsUniform (t : IdTable) (limit : Int) (model : ExecutionModel) (v : DeclaredVariable)
    (r : Uniform) : Prop where
  model_eq : r.model = model
  binding : v.entry.Gives .binding r.slot.binding
  set : v.entry.Gives .descriptorSet r.slot.set
  name_eq : r.name? = v.entry.name?
  type : t.Names limit v.decl.type r.type

/-- A block bears the name of its struct, not that of the variable. -/
structure ShowsBlock (t : IdTable) (limit : Int) (model : ExecutionModel) (v : DeclaredVariable)
    (r : UniformBlock) : Prop where
  model_eq : r.model = model
  binding : v.entry.Gives .binding r.slot.binding
  set : v.entry.Gives .descriptorSet r.slot.set
  block : t.PointsToBlock limit v.decl.type r.name? r.size

/-- One record for each decorated variable of a class, by ascending id. -/
def Lists {α : Type} (t : IdTable) (storage : StorageClass) (shows : DeclaredVariable → α → Prop)
    (found : List α) : Prop :=
  ∃ vs : List DeclaredVariable, vs.Pairwise (fun v w => v.id < w.id) ∧
    (∀ v, v ∈ vs ↔ t.HasVariable v ∧ v.decl.storage = storage ∧ v.Decorated) ∧
    List.Forall₂ shows vs found

variable {t : IdTable} {limit : Int} {v : DeclaredVariable} {storage : StorageClass}

theorem mem_declaredVariables_iff :
    v ∈ t.declaredVariables storage ↔ t.HasVariable v ∧ v.decl.storage = storage := by
  constructor
  · intro h
    obtain ⟨hentry, hvar, hstorage⟩ := get?_of_mem_declaredVariables h
    exact ⟨⟨hentry, hvar⟩, hstorage⟩
  · rintro ⟨⟨hentry, hvar⟩, hstorage⟩
    rw [get?_natCast, ← Array.getElem?_toList] at hentry
    refine List.mem_filterMap.2 ⟨(v.entry, v.id), List.mem_zipIdx_iff_getElem?.2 hentry, ?_⟩
    simp [hvar, hstorage]

theorem pairwise_declaredVariables (t : IdTable) (storage : StorageClass) :
    (t.declaredVariables storage).Pairwise fun v w => v.id < w.id := by
  have hidx : t.entries.toList.zipIdx.Pairwise fun p q => p.2 < q.2 := by
    rw [← List.pairwise_map (f := Prod.snd), List.zipIdx_map_snd]
    exact List.pairwise_lt_range'
  refine List.Pairwise.filterMap _ (fun p q hpq v hv w hw => ?_) hidx
  obtain ⟨_, -, rfl⟩ := Option.map_eq_some_iff.1 hv
  obtain ⟨_, -, rfl⟩ := Option.map_eq_some_iff.1 hw
  exact hpq

theorem HasType.unique {id : UInt32} {type type' : TypeDecl} (h : t.HasType id type)
    (h' : t.HasType id type') : type = type' := by
  obtain ⟨e, he, htype⟩ := h
  obtain ⟨e', he', htype'⟩ := h'
  cases he.symm.trans he'
  exact Option.some.inj (htype.symm.trans htype')

theorem typeOf_eq_ok_iff {id : UInt32} {type : TypeDecl} :
    t.typeOf id.toNat = .ok type ↔ t.HasType id type := by
  rw [typeOf, bind_eq_ok_iff]
  refine exists_congr fun e => and_congr lookup_eq_ok_iff ?_
  cases e.type? with
  | none => exact ⟨nofun, nofun⟩
  | some decl => simp [pure, Except.pure]

theorem names_iff {id : UInt32} {type : ShaderType} :
    t.typeOf id.toNat >>= t.shaderTypeOf limit = .ok type ↔ t.Names limit id type := by
  rw [bind_eq_ok_iff]
  exact exists_congr fun decl => and_congr_left fun _ => typeOf_eq_ok_iff

theorem uniformBlock_eq_ok_iff {model : ExecutionModel} {slot : Slot} {b : UniformBlock} :
    t.uniformBlock limit model v slot = .ok b ↔
      b.model = model ∧ b.slot = slot ∧ t.PointsToBlock limit v.decl.type b.name? b.size := by
  rw [uniformBlock, bind_eq_ok_iff]
  constructor
  · rintro ⟨type, htype, hblock⟩
    cases type with
    | pointer storage target =>
      obtain ⟨e, he, hblock⟩ := bind_eq_ok_iff.1 hblock
      obtain ⟨struct, hstruct, hblock⟩ := bind_eq_ok_iff.1 hblock
      cases struct with
      | struct members =>
        obtain ⟨size?, hsize, hblock⟩ := bind_eq_ok_iff.1 hblock
        cases size? with
        | none => cases hblock
        | some size =>
          cases hblock
          obtain ⟨e', he', hmembers⟩ := typeOf_eq_ok_iff.1 hstruct
          have hentry := lookup_eq_ok_iff.1 he
          cases hentry.symm.trans he'
          exact ⟨rfl, rfl, storage, target, e, members, typeOf_eq_ok_iff.1 htype, hentry, hmembers,
            hsize, rfl⟩
      | _ => cases hblock
    | _ => cases hblock
  · obtain ⟨bmodel, bslot, bname, bsize⟩ := b
    rintro ⟨rfl, rfl, storage, target, e, members, hptr, he, hmembers, hsize, rfl⟩
    refine ⟨_, typeOf_eq_ok_iff.2 hptr, bind_eq_ok_iff.2 ⟨e, lookup_eq_ok_iff.2 he, ?_⟩⟩
    refine bind_eq_ok_iff.2 ⟨_, typeOf_eq_ok_iff.2 ⟨e, he, hmembers⟩, ?_⟩
    exact bind_eq_ok_iff.2 ⟨_, hsize, rfl⟩

/-- What is said of the scan of a class: it fails if a variable spoils it, and else shows every
decorated variable. -/
def Survey {α : Type} (t : IdTable) (limit : Int) (storage : StorageClass)
    (shows : DeclaredVariable → α → Prop) (scan : Traced (List α)) : Prop :=
  Settles scan.result
    (fun found => (∀ v ∈ t.declaredVariables storage, ¬ t.Spoils limit v) ∧
      List.Forall₂ shows ((t.declaredVariables storage).filter (·.Decorated)) found)
    fun _ => ∃ v ∈ t.declaredVariables storage, t.Spoils limit v

theorem settles_location? (v : DeclaredVariable) :
    Settles (location? v).result
      (fun p? => ¬ v.entry.Valueless .location ∧
        ((v.entry.decoration? .location).isSome = true ↔ p?.isSome = true) ∧
        ∀ p ∈ p?, p.2 = v ∧ v.entry.Gives .location p.1)
      fun _ => v.entry.Valueless .location := by
  refine (v.entry.settles_firstLiteral_exact .location).result_lift.result_bind
    fun n? ⟨hvalued, hsome, hgives⟩ => ?_
  cases n? with
  | none => exact .ok ⟨hvalued, hsome, fun p hp => nomatch hp⟩
  | some n =>
    refine .ok ⟨hvalued, hsome, fun p hp => ?_⟩
    cases hp
    exact ⟨rfl, hgives n rfl⟩

theorem settles_slot?_exact (v : DeclaredVariable) :
    Settles (slot? v).result
      (fun slot? => (¬ v.entry.Valueless .binding ∧ ¬ v.entry.Valueless .descriptorSet) ∧
        ((v.entry.decoration? .binding).isSome = true ∧
          (v.entry.decoration? .descriptorSet).isSome = true ↔ slot?.isSome = true) ∧
        ∀ slot ∈ slot?, v.entry.Gives .binding slot.binding ∧
          v.entry.Gives .descriptorSet slot.set)
      fun _ => v.entry.Valueless .binding ∨ v.entry.Valueless .descriptorSet := by
  have hbinding := (v.entry.settles_firstLiteral_exact .binding).mono_blame
    fun _ => Or.inl (b := v.entry.Valueless .descriptorSet)
  have hset := (v.entry.settles_firstLiteral_exact .descriptorSet).mono_blame
    fun _ => Or.inr (a := v.entry.Valueless .binding)
  refine hbinding.result_lift.result_bind fun binding? ⟨hbvalued, hbsome, hbgives⟩ => ?_
  refine hset.result_lift.result_bind fun set? ⟨hsvalued, hssome, hsgives⟩ => ?_
  cases binding? with
  | none => exact .ok ⟨⟨hbvalued, hsvalued⟩, by simp [hbsome], fun p hp => nomatch hp⟩
  | some binding =>
    cases set? with
    | none => exact .ok ⟨⟨hbvalued, hsvalued⟩, by simp [hssome], fun p hp => nomatch hp⟩
    | some set =>
      refine .ok ⟨⟨hbvalued, hsvalued⟩, by simp [hbsome, hssome], fun slot hslot => ?_⟩
      cases hslot
      exact ⟨hbgives binding rfl, hsgives set rfl⟩

theorem resolves_iff_names (h : v.decl.storage ≠ .uniform) :
    t.Resolves limit v.decl ↔ ∃ type, t.Names limit v.decl.type type := by
  unfold Resolves
  split
  · next huniform => exact absurd huniform h
  · exact Iff.rfl

theorem resolves_iff_block (h : v.decl.storage = .uniform) :
    t.Resolves limit v.decl ↔
      ∃ name? size, t.PointsToBlock limit v.decl.type name? size := by
  unfold Resolves
  rw [h]

theorem settles_names (t : IdTable) (limit : Int) (id : UInt32) :
    Settles (t.typeOf id.toNat >>= t.shaderTypeOf limit) (t.Names limit id)
      fun _ => ¬ ∃ type, t.Names limit id type := by
  have h : Settles (t.typeOf id.toNat >>= t.shaderTypeOf limit) (t.Names limit id)
      fun _ => ∀ type, ¬ t.Names limit id type := .of_eq_ok_iff fun _ => names_iff
  exact h.mono_blame fun _ => not_exists.2

theorem storage_of_mem (h : v ∈ t.declaredVariables storage) : v.decl.storage = storage :=
  (mem_declaredVariables_iff.1 h).2

theorem settles_locatedVariables_exact (t : IdTable) (hrequired : storage.required = [.location]) :
    Settles (t.locatedVariables storage).result
      (fun ps => (∀ v ∈ t.declaredVariables storage, ¬ v.entry.Valueless .location) ∧
        List.Forall₂ (fun v p => p.2 = v ∧ v.entry.Gives .location p.1)
          ((t.declaredVariables storage).filter (·.Decorated)) ps)
      fun _ => ∃ v ∈ t.declaredVariables storage, v.entry.Valueless .location := by
  refine Settles.result_collect_filter fun v hv => ?_
  have hdecorated : v.Decorated ↔ (v.entry.decoration? .location).isSome = true := by
    simp [DeclaredVariable.decorated_iff, storage_of_mem hv, hrequired]
  rw [hdecorated]
  exact settles_location? v

theorem settles_locatedVariable (model : ExecutionModel) {n : Int}
    (hn : v.entry.Gives .location n) :
    Settles (do
        return (⟨model, n, v.entry.name?,
          ← t.shaderTypeOf limit (← t.typeOf v.decl.type.toNat)⟩ : LocatedVariable) :
        Traced LocatedVariable).result
      (fun r => (∃ type, t.Names limit v.decl.type type) ∧ t.ShowsLocated limit model v r)
      fun _ => ¬ ∃ type, t.Names limit v.decl.type type := by
  rw [← bind_assoc, ← Traced.lift_bind]
  refine (settles_names t limit v.decl.type).result_lift.result_bind fun type htype => ?_
  exact .ok ⟨⟨type, htype⟩, rfl, hn, rfl, htype⟩

/-- The locations of all variables are read before the first type is resolved. -/
theorem survey_located (hrequired : storage.required = [.location]) (model : ExecutionModel) :
    t.Survey limit storage (t.ShowsLocated limit model) (t.located limit model storage) := by
  have hspoiled : ∀ v ∈ t.declaredVariables storage, v.entry.Valueless .location →
      t.Spoils limit v := fun v hv hvalueless =>
    .valueless .location (by rw [storage_of_mem hv, hrequired]; exact .head _) hvalueless
  refine ((settles_locatedVariables_exact t hrequired).mono_blame
    fun _ ⟨v, hv, h⟩ => ⟨v, hv, hspoiled v hv h⟩).result_bind fun ps ⟨hvalued, hps⟩ => ?_
  refine (Settles.result_mapM_forall₂ (B := fun v => ¬ t.Resolves limit v.decl)
    (R := t.ShowsLocated limit model) hps ?_).mono
    (fun found ⟨hall, hfound⟩ => ⟨fun v hv hspoils => ?_, hfound⟩) fun fault ⟨v, hv, hbad⟩ => ?_
  · rintro v hv ⟨n, w⟩ ⟨rfl, hn⟩
    have hne : w.decl.storage ≠ .uniform := by
      rw [storage_of_mem (List.mem_filter.1 hv).1]
      rintro rfl
      cases hrequired
    rw [resolves_iff_names hne, not_not]
    exact settles_locatedVariable model hn
  · cases hspoils with
    | valueless kind hkind hvalueless =>
      rw [storage_of_mem hv, hrequired, List.mem_singleton] at hkind
      exact hvalued v hv (hkind ▸ hvalueless)
    | unresolved _ hdec hbad => exact hall v (List.mem_filter.2 ⟨hv, by simpa using hdec⟩) hbad
  · obtain ⟨hv, hdec⟩ := List.mem_filter.1 hv
    refine ⟨v, hv, .unresolved ?_ (by simpa using hdec) hbad⟩
    simp [storage_of_mem hv, hrequired]

/-- Each variable with a slot is resolved before the slot of the next is read. -/
theorem survey_bound {α : Type} {shows : DeclaredVariable → α → Prop}
    (hrequired : storage.required = [.binding, .descriptorSet])
    {resolve : DeclaredVariable → Slot → Except Fault α}
    (hresolve : ∀ v ∈ t.declaredVariables storage, ∀ slot,
      v.entry.Gives .binding slot.binding → v.entry.Gives .descriptorSet slot.set →
      Settles (resolve v slot) (fun a => t.Resolves limit v.decl ∧ shows v a)
        fun _ => ¬ t.Resolves limit v.decl) :
    t.Survey limit storage shows (t.bound storage resolve) := by
  refine Settles.result_collect_filter fun v hv => ?_
  have hkinds : v.decl.storage.required = [.binding, .descriptorSet] := by
    rw [storage_of_mem hv, hrequired]
  have hdecorated : v.Decorated ↔ (v.entry.decoration? .binding).isSome = true ∧
      (v.entry.decoration? .descriptorSet).isSome = true := by
    simp [DeclaredVariable.decorated_iff, hkinds]
  have hspoiled : v.entry.Valueless .binding ∨ v.entry.Valueless .descriptorSet →
      t.Spoils limit v := by
    rintro (h | h)
    · exact .valueless .binding (by simp [hkinds]) h
    · exact .valueless .descriptorSet (by simp [hkinds]) h
  rw [hdecorated]
  refine ((settles_slot?_exact v).mono_blame fun _ => hspoiled).result_bind
    fun slot? ⟨⟨hbinding, hset⟩, hsome, hgives⟩ => ?_
  have hvalued : ∀ kind ∈ v.decl.storage.required, ¬ v.entry.Valueless kind := by
    simp [hkinds, hbinding, hset]
  cases slot? with
  | none =>
    refine .ok ⟨?_, hsome, fun a ha => nomatch ha⟩
    rintro (⟨kind, hkind, h⟩ | ⟨-, hdec, -⟩)
    · exact hvalued kind hkind h
    · simpa using hsome.1 (hdecorated.1 hdec)
  | some slot =>
    obtain ⟨hb, hs⟩ := hgives slot rfl
    have hresolved := (hresolve v hv slot hb hs).mono_blame fun _ hbad =>
      Spoils.unresolved (by simp [hkinds]) (hdecorated.2 (hsome.2 rfl)) hbad
    refine hresolved.result_lift.result_bind fun a ⟨hres, hshows⟩ => .ok ⟨?_, ?_, ?_⟩
    · rintro (⟨kind, hkind, h⟩ | ⟨-, -, hbad⟩)
      · exact hvalued kind hkind h
      · exact hbad hres
    · exact hsome
    · intro b hb
      cases hb
      exact hshows

theorem survey_uniforms (model : ExecutionModel) :
    t.Survey limit .uniformConstant (t.ShowsUniform limit model) (t.uniforms limit model) := by
  refine survey_bound rfl fun v hv slot hb hs => ?_
  have hne : v.decl.storage ≠ .uniform := by
    rw [storage_of_mem hv]
    exact nofun
  rw [resolves_iff_names hne, uniform, ← bind_assoc]
  refine (settles_names t limit v.decl.type).bind fun type htype => ?_
  exact .ok ⟨⟨type, htype⟩, rfl, hb, hs, rfl, htype⟩

theorem survey_uniformBlocks (model : ExecutionModel) :
    t.Survey limit .uniform (t.ShowsBlock limit model) (t.uniformBlocks limit model) := by
  refine survey_bound rfl fun v hv slot hb hs => ?_
  rw [resolves_iff_block (storage_of_mem hv)]
  have hblock : Settles (t.uniformBlock limit model v slot) _ _ :=
    .of_eq_ok_iff fun b => uniformBlock_eq_ok_iff
  refine hblock.mono ?_ ?_
  · rintro b ⟨hmodel, rfl, hb'⟩
    exact ⟨⟨b.name?, b.size, hb'⟩, hmodel, hb, hs, hb'⟩
  · rintro fault h ⟨name?, size, hblock⟩
    exact h ⟨model, slot, name?, size⟩ ⟨rfl, rfl, hblock⟩

theorem lists_filter {α : Type} {shows : DeclaredVariable → α → Prop} {found : List α}
    (h : List.Forall₂ shows ((t.declaredVariables storage).filter (·.Decorated)) found) :
    t.Lists storage shows found := by
  refine ⟨_, (pairwise_declaredVariables t storage).filter _, fun v => ?_, h⟩
  rw [List.mem_filter, mem_declaredVariables_iff, decide_eq_true_iff, and_assoc]

theorem Survey.settles {α : Type} {shows : DeclaredVariable → α → Prop} {scan : Traced (List α)}
    (h : t.Survey limit storage shows scan) :
    Settles scan.result
      (fun found => (∀ v, t.HasVariable v → v.decl.storage = storage → ¬ t.Spoils limit v) ∧
        t.Lists storage shows found)
      fun _ => ∃ v, t.HasVariable v ∧ t.Spoils limit v := by
  refine h.mono (fun found ⟨hall, hfound⟩ => ⟨fun v hv hstorage => ?_, lists_filter hfound⟩)
    fun fault ⟨v, hv, hspoils⟩ => ⟨v, (mem_declaredVariables_iff.1 hv).1, hspoils⟩
  exact hall v (mem_declaredVariables_iff.2 ⟨hv, hstorage⟩)

theorem Spoils.storage_mem (h : t.Spoils limit v) :
    v.decl.storage ∈ [StorageClass.input, .output, .uniformConstant, .uniform] := by
  have hrequired : v.decl.storage.required ≠ [] := by
    cases h with
    | valueless kind hkind _ => exact List.ne_nil_of_mem hkind
    | unresolved hrequired _ _ => exact hrequired
  cases hstorage : v.decl.storage <;> simp_all [StorageClass.required]

end IdTable

structure Reflection.ShowsInterface (r : Reflection) (m : Module) (limit : Int) : Prop where
  inputs : m.ids.Lists .input (m.ids.ShowsLocated limit m.entryPoint.model) r.inputs
  outputs : m.ids.Lists .output (m.ids.ShowsLocated limit m.entryPoint.model) r.outputs
  uniforms :
    m.ids.Lists .uniformConstant (m.ids.ShowsUniform limit m.entryPoint.model) r.uniforms
  blocks : m.ids.Lists .uniform (m.ids.ShowsBlock limit m.entryPoint.model) r.blocks

theorem Module.settles_reflect_exact (m : Module) (limit : Int) :
    Settles (m.reflect limit).result
      (fun r => (∀ v, m.ids.HasVariable v → ¬ m.ids.Spoils limit v) ∧ r.ShowsInterface m limit)
      fun _ => ∃ v, m.ids.HasVariable v ∧ m.ids.Spoils limit v := by
  have hlocated (storage : StorageClass) (h : storage.required = [.location]) :
      m.ids.Survey limit storage (m.ids.ShowsLocated limit m.entryPoint.model)
        (m.ids.located limit m.entryPoint.model storage) :=
    IdTable.survey_located h m.entryPoint.model
  refine (hlocated .input rfl).settles.result_bind fun inputs ⟨hin, hinputs⟩ => ?_
  refine (hlocated .output rfl).settles.result_bind fun outputs ⟨hout, houtputs⟩ => ?_
  refine (IdTable.survey_uniforms _).settles.result_bind fun uniforms ⟨hconst, huniforms⟩ => ?_
  refine (IdTable.survey_uniformBlocks _).settles.result_bind fun blocks ⟨huni, hblocks⟩ => ?_
  refine (Resource.settles_descriptors _).result_bind fun found _ => ?_
  refine .ok ⟨fun v hv hspoils => ?_, hinputs, houtputs, huniforms, hblocks⟩
  have hclass := hspoils.storage_mem
  simp only [List.mem_cons, List.not_mem_nil, or_false] at hclass
  rcases hclass with h | h | h | h
  · exact hin v hv h hspoils
  · exact hout v hv h hspoils
  · exact hconst v hv h hspoils
  · exact huni v hv h hspoils

/-- A reflection shows each decorated variable once, unless one of the variables spoils it. -/
theorem scans_exact {order : String} {data : ModuleData} {m : Module}
    (h : (Module.ofData order data).result = .ok m) (limit : Int) :
    ((∃ fault, (reflect order limit data).result = .error fault) ↔
      ∃ v, m.ids.HasVariable v ∧ m.ids.Spoils limit v) ∧
    ∀ r, (reflect order limit data).result = .ok r → r.ShowsInterface m limit := by
  have hresult : (reflect order limit data).result = (m.reflect limit).result := by
    rw [result_reflect, h]
    rfl
  have hexact := m.settles_reflect_exact limit
  rw [hresult]
  cases hr : (m.reflect limit).result with
  | error fault =>
    have hspoiled := hexact.of_eq_error hr
    exact ⟨⟨fun _ => hspoiled, fun _ => ⟨fault, rfl⟩⟩, nofun⟩
  | ok r =>
    obtain ⟨hnone, hshows⟩ := hexact.of_eq_ok hr
    refine ⟨⟨?_, ?_⟩, ?_⟩
    · rintro ⟨fault, hfault⟩
      cases hfault
    · rintro ⟨v, hv, hspoils⟩
      exact absurd hspoils (hnone v hv)
    · rintro r' hr'
      cases hr'
      exact hshows

/-- An input with two locations, of which the first counts, one without a location, and a block of
one vector. -/
def sceneData : ModuleData :=
  .words
    [0x07230203, 0x10000, 0, 9, 0,
     0x30005, 4, 0x736f70,
     0x30005, 6, 0x42,
     0x40047, 4, 30, 7,
     0x40047, 4, 30, 3,
     0x40047, 8, 33, 1,
     0x40047, 8, 34, 0,
     0x30016, 1, 32,
     0x40017, 2, 1, 4,
     0x40020, 3, 1, 2,
     0x4003b, 3, 4, 1,
     0x4003b, 3, 5, 1,
     0x3001e, 6, 2,
     0x40020, 7, 2, 6,
     0x4003b, 7, 8, 2]

def sceneModule : Module where
  header := ⟨0x10000, 0, 9, 0⟩
  ids :=
    ⟨#[{}, { type? := some (.float 32) }, { type? := some (.vector 1 4) },
      { type? := some (.pointer .input 2) },
      { name? := some "pos", decorations := [⟨.location, [7]⟩, ⟨.location, [3]⟩],
        var? := some ⟨3, .input, []⟩ },
      { var? := some ⟨3, .input, []⟩ }, { name? := some "B", type? := some (.struct [2]) },
      { type? := some (.pointer .uniform 6) },
      { decorations := [⟨.binding, [1]⟩, ⟨.descriptorSet, [0]⟩],
        var? := some ⟨7, .uniform, []⟩ }]⟩
  entryPoint? := none

def sceneReflection : Reflection where
  source := sceneModule
  inputs := [⟨.unknown, 7, some "pos", .base (.vector .float .four)⟩]
  outputs := []
  uniforms := []
  blocks := [⟨.unknown, ⟨1, 0⟩, some "B", 16⟩]
  sets := [(0, [⟨some "B", ⟨1, 0⟩, .uniformBuffer, 1⟩])]
  descriptors := [("B", ⟨some "B", ⟨1, 0⟩, .uniformBuffer, 1⟩)]

/-- No vector lies within a depth of 0, so there the input spoils the reflection. -/
theorem scans_exact_scene :
    (Module.ofData "little" sceneData).result = .ok sceneModule ∧
    (reflect "little" 64 sceneData).result = .ok sceneReflection ∧
    sceneReflection.ShowsInterface sceneModule 64 ∧
    (reflect "little" 0 sceneData).result = .error (.typesTooDeep 0) ∧
    ∃ v, sceneModule.ids.HasVariable v ∧ sceneModule.ids.Spoils 0 v := by
  have hdecode : (Module.ofData "little" sceneData).result = .ok sceneModule := by decide +kernel
  have hreflect : (reflect "little" 64 sceneData).result = .ok sceneReflection := by
    decide +kernel
  have hshallow : (reflect "little" 0 sceneData).result = .error (.typesTooDeep 0) := by
    decide +kernel
  exact ⟨hdecode, hreflect, (scans_exact hdecode 64).2 _ hreflect, hshallow,
    (scans_exact hdecode 0).1.1 ⟨_, hshallow⟩⟩

end ShaderInterface
