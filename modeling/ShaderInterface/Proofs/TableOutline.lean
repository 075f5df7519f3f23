import ShaderInterface.Proofs.TableExtension

namespace ShaderInterface

variable {α β : Type}

namespace Entry

variable {e : Entry} {kind : DecorationKind} {kinds : List DecorationKind}

/-- The entry without members. Of the decorations only the first of each kind listed is kept, and
none if the id is no variable. -/
def outline (kinds : List DecorationKind) (e : Entry) : Entry :=
  { e with
    members := []
    decorations := if e.var?.isSome then kinds.filterMap e.decoration? else [] }

theorem kind_of_decoration? {d : Decoration} (h : e.decoration? kind = some d) :
    d.kind = kind := by
  unfold decoration? at h
  simpa using List.find?_some h

theorem find?_filterMap_decoration? (e : Entry) (kind : DecorationKind)
    (kinds : List DecorationKind) :
    (kinds.filterMap e.decoration?).find? (·.kind == kind) =
      if kind ∈ kinds then e.decoration? kind else none := by
  induction kinds with
  | nil => rfl
  | cons first rest ih =>
    cases hd : e.decoration? first with
    | none =>
      rw [List.filterMap_cons_none hd, ih]
      by_cases hfirst : kind = first
      · simp [hfirst, hd]
      · simp [hfirst]
    | some d =>
      rw [List.filterMap_cons_some hd, List.find?_cons, ih, kind_of_decoration? hd]
      by_cases hfirst : kind = first
      · simp [hfirst, hd]
      · have hne : (first == kind) = false := beq_false_of_ne (Ne.symm hfirst)
        simp [hfirst, hne]

theorem decoration?_outline (hvar : e.var?.isSome = true) (hkind : kind ∈ kinds) :
    (e.outline kinds).decoration? kind = e.decoration? kind := by
  have hfind := find?_filterMap_decoration? e kind kinds
  rw [if_pos hkind] at hfind
  simpa [outline, hvar, decoration?] using hfind

theorem firstLiteral_outline (hvar : e.var?.isSome = true) (hkind : kind ∈ kinds) :
    (e.outline kinds).firstLiteral kind = e.firstLiteral kind := by
  rw [firstLiteral, firstLiteral, decoration?_outline hvar hkind]

end Entry

theorem bind_eq_bind {x y : Except Fault α} {f g : α → Except Fault β} (hx : x = y)
    (hfg : ∀ a, f a = g a) : x >>= f = y >>= g := by
  rw [hx, funext hfg]

namespace Traced

theorem collect_map (g : α → β) {γ : Type} (f : β → Traced (Option γ)) (l : List α) :
    collect f (l.map g) = collect (fun a => f (g a)) l := by
  induction l with
  | nil => rfl
  | cons a rest ih => rw [List.map_cons, collect, collect, ih]

theorem collect_map_option {γ : Type} (g : β → γ) (f : α → Traced (Option β)) (l : List α) :
    collect (fun a => Option.map g <$> f a) l = List.map g <$> collect f l := by
  induction l with
  | nil => simp [collect]
  | cons a rest ih =>
    simp only [collect, ih, bind_map_left, map_bind]
    congr
    funext b?
    cases b? <;> simp

end Traced

def slotKinds : List DecorationKind :=
  [.location, .binding, .descriptorSet]

def DeclaredVariable.outline (v : DeclaredVariable) : DeclaredVariable :=
  { v with entry := v.entry.outline slotKinds }

namespace IdTable

theorem isSome_var? {t : IdTable} {v : DeclaredVariable} {storage : StorageClass}
    (h : v ∈ t.declaredVariables storage) : v.entry.var?.isSome = true := by
  rw [(get?_of_mem_declaredVariables h).2.1]
  rfl

/-- What the scans read of a table, if the kinds are those they look at, and what the walks over
types read of it in any case. -/
def outline (kinds : List DecorationKind) (t : IdTable) : IdTable :=
  ⟨t.entries.map (Entry.outline kinds)⟩

variable (t : IdTable) (kinds : List DecorationKind) {limit : Int}

theorem size_outline : (t.outline kinds).size = t.size :=
  Array.size_map

theorem get?_outline (id : Int) :
    (t.outline kinds).get? id = (t.get? id).map (Entry.outline kinds) := by
  unfold get? outline
  split
  · rfl
  · rw [Array.getElem?_map]

theorem lookup_outline (id : Int) :
    (t.outline kinds).lookup id = Entry.outline kinds <$> t.lookup id := by
  unfold lookup
  rw [get?_outline, size_outline]
  cases t.get? id <;> rfl

theorem typeOf_outline : (t.outline kinds).typeOf = t.typeOf := by
  funext id
  unfold typeOf
  rw [lookup_outline]
  cases t.lookup id <;> rfl

theorem typeOf_bind_outline (id : Int) {f g : TypeDecl → Except Fault α}
    (h : ∀ type, f type = g type) : (t.outline kinds).typeOf id >>= f = t.typeOf id >>= g :=
  bind_eq_bind (congrFun (typeOf_outline t kinds) id) h

theorem constantOf_outline : (t.outline kinds).constantOf = t.constantOf := by
  funext id
  unfold constantOf
  rw [lookup_outline]
  cases t.lookup id <;> rfl

theorem arrayLength_outline : (t.outline kinds).arrayLength = t.arrayLength := by
  funext length
  unfold arrayLength
  rw [constantOf_outline]

theorem allTyped_outline : (t.outline kinds).allTyped = t.allTyped := by
  funext ids
  induction ids with
  | nil => rfl
  | cons id rest ih =>
    rw [allTyped, allTyped, lookup_outline, ih]
    cases t.lookup id.toNat <;> rfl

theorem sizeWithin_outline (levels : Nat) :
    (t.outline kinds).sizeWithin limit levels = t.sizeWithin limit levels := by
  induction levels with
  | zero => rfl
  | succ n ih =>
    funext type
    cases type with
    | array => rw [sizeWithin, sizeWithin, ih, typeOf_outline, arrayLength_outline]
    | pointer => rw [sizeWithin, sizeWithin, ih, typeOf_outline]
    | struct => rw [sizeWithin, sizeWithin, ih, typeOf_outline, allTyped_outline]
    | _ => rfl

theorem shaderTypeWithin_outline (levels : Nat) (type : TypeDecl) :
    (t.outline kinds).shaderTypeWithin limit levels type =
      t.shaderTypeWithin limit levels type := by
  induction levels generalizing type with
  | zero => rfl
  | succ n ih =>
    cases type with
    | array element length =>
      apply typeOf_bind_outline
      intro decl
      refine bind_eq_bind (ih decl) fun inner => ?_
      rw [arrayLength_outline]
    | pointer storage target => exact typeOf_bind_outline t kinds _ ih
    | sampledImage | vector => exact typeOf_bind_outline t kinds _ fun _ => rfl
    | _ => rfl

theorem layoutWithin_outline (levels : Nat) (type : TypeDecl) :
    (t.outline kinds).layoutWithin limit levels type = t.layoutWithin limit levels type := by
  induction levels generalizing type with
  | zero => rfl
  | succ n ih =>
    cases type with
    | array element length =>
      apply typeOf_bind_outline
      intro decl
      refine bind_eq_bind (ih decl) fun inner => ?_
      rw [arrayLength_outline]
    | pointer storage target => exact typeOf_bind_outline t kinds _ ih
    | matrix | vector =>
      exact typeOf_bind_outline t kinds _ fun decl => bind_eq_bind (ih decl) fun _ => rfl
    | _ => rfl

theorem sizeOf_outline : (t.outline kinds).sizeOf = t.sizeOf := by
  funext limit
  exact sizeWithin_outline t kinds (levels limit)

theorem shaderTypeOf_outline : (t.outline kinds).shaderTypeOf = t.shaderTypeOf := by
  funext limit
  funext type
  exact shaderTypeWithin_outline t kinds (levels limit) type

theorem layoutOf_outline : (t.outline kinds).layoutOf = t.layoutOf := by
  funext limit
  funext type
  exact layoutWithin_outline t kinds (levels limit) type

theorem declaredVariables_outline (storage : StorageClass) :
    (t.outline slotKinds).declaredVariables storage =
      (t.declaredVariables storage).map DeclaredVariable.outline := by
  unfold declaredVariables outline
  rw [Array.toList_map, List.zipIdx_map, List.filterMap_map, List.map_filterMap]
  congr
  funext p
  simp [DeclaredVariable.outline, Entry.outline, Function.comp_def]

theorem location?_outline {v : DeclaredVariable} (hvar : v.entry.var?.isSome = true) :
    location? v.outline = Option.map (Prod.map id DeclaredVariable.outline) <$> location? v := by
  have hliteral : (v.entry.outline slotKinds).firstLiteral .location =
      v.entry.firstLiteral .location := Entry.firstLiteral_outline hvar (by decide)
  unfold location?
  rw [DeclaredVariable.outline, hliteral]
  cases v.entry.firstLiteral .location with
  | error fault => rfl
  | ok n? => cases n? <;> rfl

theorem slot?_outline {v : DeclaredVariable} (hvar : v.entry.var?.isSome = true) :
    slot? v.outline = slot? v := by
  have hbinding : (v.entry.outline slotKinds).firstLiteral .binding =
      v.entry.firstLiteral .binding := Entry.firstLiteral_outline hvar (by decide)
  have hset : (v.entry.outline slotKinds).firstLiteral .descriptorSet =
      v.entry.firstLiteral .descriptorSet := Entry.firstLiteral_outline hvar (by decide)
  unfold slot?
  rw [DeclaredVariable.outline, hbinding, hset]

theorem locatedVariables_outline (storage : StorageClass) :
    (t.outline slotKinds).locatedVariables storage =
      List.map (Prod.map id DeclaredVariable.outline) <$> t.locatedVariables storage := by
  unfold locatedVariables
  rw [declaredVariables_outline, Traced.collect_map, ← Traced.collect_map_option]
  apply Traced.collect_congr
  intro v hv
  exact location?_outline (isSome_var? hv)

theorem located_outline (model : ExecutionModel) (storage : StorageClass) :
    (t.outline slotKinds).located limit model storage = t.located limit model storage := by
  unfold located
  rw [locatedVariables_outline, bind_map_left, typeOf_outline, shaderTypeOf_outline]
  congr
  funext vs
  rw [List.mapM_map]
  rfl

theorem bound_outline {storage : StorageClass}
    {resolve resolve' : DeclaredVariable → Slot → Except Fault α}
    (h : ∀ v, resolve' v.outline = resolve v) :
    (t.outline slotKinds).bound storage resolve' = t.bound storage resolve := by
  unfold bound
  rw [declaredVariables_outline, Traced.collect_map]
  apply Traced.collect_congr
  intro v hv
  rw [slot?_outline (isSome_var? hv), h]

theorem uniforms_outline (model : ExecutionModel) :
    (t.outline slotKinds).uniforms limit model = t.uniforms limit model := by
  apply bound_outline
  intro v
  funext slot
  unfold uniform
  rw [typeOf_outline, shaderTypeOf_outline]
  rfl

theorem uniformBlocks_outline (model : ExecutionModel) :
    (t.outline slotKinds).uniformBlocks limit model = t.uniformBlocks limit model := by
  apply bound_outline
  intro v
  funext slot
  unfold uniformBlock
  simp only [typeOf_outline, sizeOf_outline, lookup_outline, bind_map_left]
  rfl

theorem inputLayout_outline : (t.outline slotKinds).inputLayout limit = t.inputLayout limit := by
  unfold inputLayout
  rw [locatedVariables_outline, bind_map_left, typeOf_outline, layoutOf_outline]
  congr
  funext vs
  have hsort : (vs.map (Prod.map id DeclaredVariable.outline)).mergeSort (fun a b => a.1 ≤ b.1) =
      (vs.mergeSort fun a b => a.1 ≤ b.1).map (Prod.map id DeclaredVariable.outline) := by
    rw [List.map_mergeSort]
    exact fun a _ b _ => rfl
  rw [hsort]
  dsimp only
  rw [List.mapM_map]
  rfl

end IdTable

end ShaderInterface
