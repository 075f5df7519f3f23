import Mathlib.Data.Fin.Rev
import Mathlib.Data.List.Nodup
import Mathlib.Logic.Equiv.Defs
import ShaderInterface.Proofs.MirroredScans

namespace ShaderInterface

variable {α : Type} {limit : Int} {storage : StorageClass} {v : DeclaredVariable}

namespace IdTable

variable {t : IdTable}

theorem nodup_declaredVariables (t : IdTable) (storage : StorageClass) :
    (t.declaredVariables storage).Nodup := by
  refine (pairwise_declaredVariables t storage).imp fun hlt heq => ?_
  rw [heq] at hlt
  exact Nat.lt_irrefl _ hlt

theorem HasVariable.eq_of_id {w : DeclaredVariable} (hv : t.HasVariable v) (hw : t.HasVariable w)
    (hid : v.id = w.id) : v = w := by
  obtain ⟨id, entry, decl⟩ := v
  obtain ⟨id', entry', decl'⟩ := w
  obtain ⟨hentry, hvar⟩ := hv
  obtain ⟨hentry', hvar'⟩ := hw
  cases hid
  cases hentry.symm.trans hentry'
  cases hvar.symm.trans hvar'
  rfl

/-- The new number of an id. One outside the table keeps its number. -/
def renumbering (t : IdTable) (ρ : Equiv.Perm (Fin t.size)) (id : UInt32) : UInt32 :=
  if h : id.toNat < t.size then UInt32.ofNat (ρ ⟨id.toNat, h⟩) else id

/-- The table with each entry moved to a new number, and with the ids in all of them renamed. -/
def renumber (t : IdTable) (ρ : Equiv.Perm (Fin t.size)) : IdTable :=
  ⟨Array.ofFn fun k : Fin t.size =>
    have h : (ρ.symm k).val < t.entries.size := (ρ.symm k).isLt
    t.entries[(ρ.symm k).val].rename (t.renumbering ρ)⟩

section Renumber

variable (ρ : Equiv.Perm (Fin t.size))

theorem size_renumber : (t.renumber ρ).size = t.size := Array.size_ofFn

theorem get?_renumber_of_lt (k : Fin t.size) :
    (t.renumber ρ).get? (ρ k).val = (t.get? k.val).map (Entry.rename (t.renumbering ρ)) := by
  have hk : k.val < t.entries.size := k.isLt
  rw [get?_natCast, get?_natCast, renumber, Array.getElem?_ofFn, dif_pos (ρ k).isLt,
    Array.getElem?_eq_getElem hk]
  simp

theorem renumbering_of_lt (hsize : t.size ≤ UInt32.size) {n : Nat} (hn : n < t.size) :
    (t.renumbering ρ (UInt32.ofNat n)).toNat = ρ ⟨n, hn⟩ := by
  have hid : (UInt32.ofNat n).toNat = n := UInt32.toNat_ofNat_of_lt' (by omega)
  rw [renumbering, dif_pos (by omega), UInt32.toNat_ofNat_of_lt' (by omega)]
  simp only [hid]

theorem mirrors_renumber (hsize : t.size ≤ UInt32.size) :
    t.Mirrors (t.renumbering ρ) (fun _ => True) (t.renumber ρ) where
  get?_eq id _ := by
    by_cases hid : id.toNat < t.size
    · have hnew := t.renumbering_of_lt ρ hsize hid
      rw [UInt32.ofNat_toNat] at hnew
      rw [hnew]
      exact t.get?_renumber_of_lt ρ ⟨id.toNat, hid⟩
    -- Beyond the table an id keeps its number and is found in neither.
    · have hold : t.entries[id.toNat]? = none := Array.getElem?_eq_none (Nat.not_lt.1 hid)
      have hnew : (t.renumber ρ).entries[id.toNat]? = none :=
        Array.getElem?_eq_none (by rw [← size, size_renumber]; exact Nat.not_lt.1 hid)
      rw [renumbering, dif_neg hid, get?_natCast, get?_natCast, hold, hnew]
      rfl
  closed _ _ _ _ _ _ _ _ := trivial

theorem id_rename (hsize : t.size ≤ UInt32.size) (hid : v.id < t.size) :
    (v.rename (t.renumbering ρ)).id = ρ ⟨v.id, hid⟩ :=
  t.renumbering_of_lt ρ hsize hid

theorem mem_declaredVariables_renumber (hsize : t.size ≤ UInt32.size) :
    v ∈ (t.renumber ρ).declaredVariables storage ↔
      v ∈ (t.declaredVariables storage).map (DeclaredVariable.rename (t.renumbering ρ)) := by
  rw [List.mem_map, mem_declaredVariables_iff]
  constructor
  · rintro ⟨⟨hentry, hvar⟩, hstorage⟩
    have hid : v.id < t.size := t.size_renumber ρ ▸ lt_size_of_get? hentry
    obtain ⟨k, hk⟩ := ρ.surjective ⟨v.id, hid⟩
    have hnew : (ρ k).val = v.id := congrArg Fin.val hk
    rw [← hnew, get?_renumber_of_lt] at hentry
    obtain ⟨e, he, hrename⟩ := Option.map_eq_some_iff.1 hentry
    rw [← hrename] at hvar
    obtain ⟨decl, hdecl, hdecl'⟩ := Option.map_eq_some_iff.1 hvar
    refine ⟨⟨k, e, decl⟩, mem_declaredVariables_iff.2 ⟨⟨he, hdecl⟩, ?_⟩, ?_⟩
    · rw [← hstorage, ← hdecl']
      rfl
    · obtain ⟨id, entry, decl⟩ := v
      cases hrename
      cases hdecl'
      have hrenamed := t.renumbering_of_lt ρ hsize k.isLt
      rw [DeclaredVariable.rename, hrenamed]
      exact congrArg (DeclaredVariable.mk · _ _) hnew
  · rintro ⟨w, hw, rfl⟩
    obtain ⟨⟨hentry, hvar⟩, hstorage⟩ := mem_declaredVariables_iff.1 hw
    have hid := lt_size_of_get? hentry
    refine ⟨⟨?_, ?_⟩, hstorage⟩
    · rw [t.id_rename ρ hsize hid, get?_renumber_of_lt]
      exact congrArg (Option.map _) hentry
    · show w.entry.var?.map _ = _
      rw [hvar]
      rfl

theorem declaredVariables_renumber_perm (hsize : t.size ≤ UInt32.size) (storage : StorageClass) :
    ((t.renumber ρ).declaredVariables storage).Perm
      ((t.declaredVariables storage).map (DeclaredVariable.rename (t.renumbering ρ))) := by
  have hnodup : ((t.declaredVariables storage).map
      (DeclaredVariable.rename (t.renumbering ρ))).Nodup := by
    refine List.Nodup.map_on (fun v hv w hw heq => ?_) (nodup_declaredVariables t storage)
    obtain ⟨hv, -⟩ := mem_declaredVariables_iff.1 hv
    obtain ⟨hw, -⟩ := mem_declaredVariables_iff.1 hw
    have hid := congrArg DeclaredVariable.id heq
    rw [t.id_rename ρ hsize (lt_size_of_get? hv.1),
      t.id_rename ρ hsize (lt_size_of_get? hw.1)] at hid
    exact hv.eq_of_id hw (congrArg Fin.val (ρ.injective (Fin.ext hid)))
  exact (List.perm_ext_iff_of_nodup (nodup_declaredVariables _ _) hnodup).2 fun v =>
    t.mem_declaredVariables_renumber ρ hsize

theorem sameRecords_renumber (hsize : t.size ≤ UInt32.size)
    {shows shows' : DeclaredVariable → α → Prop} {scan scan' : Traced (List α)}
    (hshows : ∀ v r, shows' (v.rename (t.renumbering ρ)) r ↔ shows v r)
    (hunique : Relator.RightUnique shows') (h : t.Survey limit storage shows scan)
    (h' : (t.renumber ρ).Survey limit storage shows' scan') : SameRecords scan' scan := by
  have hperm := t.declaredVariables_renumber_perm ρ hsize storage
  have hmirrors := t.mirrors_renumber ρ hsize
  exact sameRecords_of_survey hperm (fun v => hmirrors.spoils_iff trivial) hshows hunique h h'

end Renumber

end IdTable

/-- Moved entries with renamed ids are walked and scanned alike, up to the order of the records. -/
theorem numbering_irrelevant (t : IdTable) (hsize : t.size ≤ UInt32.size)
    (ρ : Equiv.Perm (Fin t.size)) (limit : Int) :
    (∀ type : TypeDecl,
      ((t.renumber ρ).sizeOf limit (type.rename (t.renumbering ρ))).mapError Fault.category =
        (t.sizeOf limit type).mapError Fault.category ∧
      ((t.renumber ρ).shaderTypeOf limit (type.rename (t.renumbering ρ))).mapError Fault.category =
        (t.shaderTypeOf limit type).mapError Fault.category ∧
      ((t.renumber ρ).layoutOf limit (type.rename (t.renumbering ρ))).mapError Fault.category =
        (t.layoutOf limit type).mapError Fault.category) ∧
    ∀ model,
      SameRecords ((t.renumber ρ).inputs limit model) (t.inputs limit model) ∧
      SameRecords ((t.renumber ρ).outputs limit model) (t.outputs limit model) ∧
      SameRecords ((t.renumber ρ).uniforms limit model) (t.uniforms limit model) ∧
      SameRecords ((t.renumber ρ).uniformBlocks limit model) (t.uniformBlocks limit model) := by
  have h := t.mirrors_renumber ρ hsize
  constructor
  · intro type
    have hinside : ∀ id ∈ type.ids, True := fun _ _ => trivial
    have hsizes := h.sizeWithin limit (IdTable.levels limit) hinside
    have hshaders := h.shaderTypeWithin limit (IdTable.levels limit) hinside
    have hlayouts := h.layoutWithin limit (IdTable.levels limit) hinside
    exact ⟨hsizes.mapError_category Fault.category_rename,
      hshaders.mapError_category Fault.category_rename,
      hlayouts.mapError_category Fault.category_rename⟩
  · intro model
    have hlocated : ∀ storage : StorageClass, storage.required = [.location] →
        SameRecords ((t.renumber ρ).located limit model storage)
          (t.located limit model storage) := fun storage hrequired =>
      IdTable.sameRecords_renumber ρ hsize (fun v r => h.showsLocated_iff trivial)
        IdTable.rightUnique_showsLocated (IdTable.survey_located hrequired model)
        (IdTable.survey_located hrequired model)
    refine ⟨hlocated .input rfl, hlocated .output rfl, ?_, ?_⟩
    · exact IdTable.sameRecords_renumber ρ hsize (fun v r => h.showsUniform_iff trivial)
        IdTable.rightUnique_showsUniform (IdTable.survey_uniforms model)
        (IdTable.survey_uniforms model)
    · exact IdTable.sameRecords_renumber ρ hsize (fun v r => h.showsBlock_iff trivial)
        IdTable.rightUnique_showsBlock (IdTable.survey_uniformBlocks model)
        (IdTable.survey_uniformBlocks model)

def twoInputsTable : IdTable :=
  ⟨#[{ type? := some (.float 32) }, { type? := some (.pointer .input 0) },
    { decorations := [⟨.location, [0]⟩], var? := some ⟨1, .input, []⟩ },
    { decorations := [⟨.location, [1]⟩], var? := some ⟨1, .input, []⟩ }]⟩

/-- Numbered backwards, the second input is found first. -/
theorem numbering_irrelevant_backwards :
    twoInputsTable.size ≤ UInt32.size ∧
    (twoInputsTable.renumber Fin.revPerm).entries[2]?.bind (·.type?) = some (.pointer .input 3) ∧
    ((twoInputsTable.renumber Fin.revPerm).layoutOf 1 (.pointer .input 3)).mapError
      Fault.category = (twoInputsTable.layoutOf 1 (.pointer .input 0)).mapError Fault.category ∧
    ((twoInputsTable.renumber Fin.revPerm).inputs 1 .vertex).result =
      .ok [⟨.vertex, 1, none, .base (.scalar .float)⟩, ⟨.vertex, 0, none, .base (.scalar .float)⟩] ∧
    (twoInputsTable.inputs 1 .vertex).result =
      .ok [⟨.vertex, 0, none, .base (.scalar .float)⟩, ⟨.vertex, 1, none, .base (.scalar .float)⟩] ∧
    SameRecords ((twoInputsTable.renumber Fin.revPerm).inputs 1 .vertex)
      (twoInputsTable.inputs 1 .vertex) := by
  have hsize : twoInputsTable.size ≤ UInt32.size := by decide
  obtain ⟨htypes, hscans⟩ := numbering_irrelevant twoInputsTable hsize Fin.revPerm 1
  have hlayout := (htypes (.pointer .input 0)).2.2
  exact ⟨hsize, by decide +kernel, hlayout, by decide +kernel, by decide +kernel, (hscans _).1⟩

end ShaderInterface
