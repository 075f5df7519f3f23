import Mathlib.Data.List.Perm.Basic
import ShaderInterface.Proofs.Correspondence
import ShaderInterface.Proofs.ScanContents

namespace ShaderInterface

variable {α : Type} {σ : UInt32 → UInt32} {limit : Int} {storage : StorageClass}
  {model : ExecutionModel} {v : DeclaredVariable}

def DeclaredVariable.rename (σ : UInt32 → UInt32) (v : DeclaredVariable) : DeclaredVariable :=
  ⟨(σ (UInt32.ofNat v.id)).toNat, v.entry.rename σ, v.decl.rename σ⟩

/-- Both scans are refused, or both find the same records, perhaps in another order. -/
def SameRecords (scan scan' : Traced (List α)) : Prop :=
  ((∃ found, scan.result = .ok found) ↔ ∃ found, scan'.result = .ok found) ∧
    ∀ found found', scan.result = .ok found → scan'.result = .ok found' → found.Perm found'

theorem Entry.Gives.unique {e : Entry} {kind : DecorationKind} {n n' : Int} (h : e.Gives kind n)
    (h' : e.Gives kind n') : n = n' := by
  obtain ⟨d, hd, hn⟩ := h
  obtain ⟨d', hd', hn'⟩ := h'
  cases hd.unique hd'
  exact Option.some.inj (hn.symm.trans hn')

namespace IdTable

variable {t t' : IdTable} {id : UInt32}

theorem Names.unique {type type' : ShaderType} (h : t.Names limit id type)
    (h' : t.Names limit id type') : type = type' := by
  obtain ⟨decl, htype, hnamed⟩ := h
  obtain ⟨decl', htype', hnamed'⟩ := h'
  cases htype.unique htype'
  exact Except.ok.inj (hnamed.symm.trans hnamed')

theorem PointsToBlock.unique {name? name?' : Option String} {size size' : Nat}
    (h : t.PointsToBlock limit id name? size) (h' : t.PointsToBlock limit id name?' size') :
    name? = name?' ∧ size = size' := by
  obtain ⟨storage, target, e, members, hptr, he, htype, hsize, rfl⟩ := h
  obtain ⟨storage', target', e', members', hptr', he', htype', hsize', rfl⟩ := h'
  cases hptr.unique hptr'
  cases he.symm.trans he'
  cases htype.symm.trans htype'
  cases hsize.symm.trans hsize'
  exact ⟨rfl, rfl⟩

theorem rightUnique_showsLocated : Relator.RightUnique (t.ShowsLocated limit model) := by
  intro v r r' h h'
  obtain ⟨rmodel, location, name?, type⟩ := r
  obtain ⟨rmodel', location', name?', type'⟩ := r'
  cases h.model_eq
  cases h'.model_eq
  cases h.location.unique h'.location
  cases h.name_eq
  cases h'.name_eq
  cases h.type.unique h'.type
  rfl

theorem rightUnique_showsUniform : Relator.RightUnique (t.ShowsUniform limit model) := by
  intro v r r' h h'
  obtain ⟨rmodel, ⟨binding, set⟩, name?, type⟩ := r
  obtain ⟨rmodel', ⟨binding', set'⟩, name?', type'⟩ := r'
  cases h.model_eq
  cases h'.model_eq
  cases h.binding.unique h'.binding
  cases h.set.unique h'.set
  cases h.name_eq
  cases h'.name_eq
  cases h.type.unique h'.type
  rfl

theorem rightUnique_showsBlock : Relator.RightUnique (t.ShowsBlock limit model) := by
  intro v r r' h h'
  obtain ⟨rmodel, ⟨binding, set⟩, name?, size⟩ := r
  obtain ⟨rmodel', ⟨binding', set'⟩, name?', size'⟩ := r'
  cases h.model_eq
  cases h'.model_eq
  cases h.binding.unique h'.binding
  cases h.set.unique h'.set
  obtain ⟨rfl, rfl⟩ := h.block.unique h'.block
  rfl

namespace Mirrors

variable {inside : UInt32 → Prop}

theorem inside_of_hasType (h : t.Mirrors σ inside t') (hid : inside id) {decl : TypeDecl}
    (htype : t.HasType id decl) : ∀ part ∈ decl.ids, inside part := by
  obtain ⟨e, he, hdecl⟩ := htype
  exact h.closed id e decl hid he hdecl

theorem hasType_iff (h : t.Mirrors σ inside t') (hid : inside id) {decl' : TypeDecl} :
    t'.HasType (σ id) decl' ↔ ∃ decl, t.HasType id decl ∧ decl.rename σ = decl' := by
  rw [HasType, h.get?_eq id hid]
  constructor
  · rintro ⟨e', he', htype'⟩
    obtain ⟨e, he, rfl⟩ := Option.map_eq_some_iff.1 he'
    obtain ⟨decl, hdecl, rfl⟩ := Option.map_eq_some_iff.1 htype'
    exact ⟨decl, ⟨e, he, hdecl⟩, rfl⟩
  · rintro ⟨decl, ⟨e, he, hdecl⟩, rfl⟩
    refine ⟨e.rename σ, by rw [he]; rfl, ?_⟩
    show e.type?.map _ = _
    rw [hdecl]
    rfl

theorem names_iff (h : t.Mirrors σ inside t') (hid : inside id) {type : ShaderType} :
    t'.Names limit (σ id) type ↔ t.Names limit id type := by
  constructor
  · rintro ⟨decl', htype', hnamed⟩
    obtain ⟨decl, htype, rfl⟩ := (h.hasType_iff hid).1 htype'
    have hwalk := h.shaderTypeWithin limit (levels limit) (h.inside_of_hasType hid htype)
    exact ⟨decl, htype, hwalk.eq_ok_iff.1 hnamed⟩
  · rintro ⟨decl, htype, hnamed⟩
    have hwalk := h.shaderTypeWithin limit (levels limit) (h.inside_of_hasType hid htype)
    exact ⟨_, (h.hasType_iff hid).2 ⟨decl, htype, rfl⟩, hwalk.eq_ok_iff.2 hnamed⟩

theorem pointsToBlock_iff (h : t.Mirrors σ inside t') (hid : inside id) {name? : Option String}
    {size : Nat} :
    t'.PointsToBlock limit (σ id) name? size ↔ t.PointsToBlock limit id name? size := by
  constructor
  · rintro ⟨storage, target', e', members', hptr', he', htype', hsize', rfl⟩
    obtain ⟨decl, hptr, hdecl⟩ := (h.hasType_iff hid).1 hptr'
    cases decl with
    | pointer _ target =>
      cases hdecl
      have htarget := h.inside_of_hasType hid hptr target (.head _)
      rw [h.get?_eq target htarget] at he'
      obtain ⟨e, he, rfl⟩ := Option.map_eq_some_iff.1 he'
      obtain ⟨struct, htype, hstruct⟩ := Option.map_eq_some_iff.1 htype'
      cases struct with
      | struct members =>
        cases hstruct
        have hwalk := h.sizeWithin limit (levels limit) (h.closed target e _ htarget he htype)
        exact ⟨storage, target, e, members, hptr, he, htype, hwalk.eq_ok_iff.1 hsize', rfl⟩
      | _ => cases hstruct
    | _ => cases hdecl
  · rintro ⟨storage, target, e, members, hptr, he, htype, hsize, rfl⟩
    have htarget := h.inside_of_hasType hid hptr target (.head _)
    have hwalk := h.sizeWithin limit (levels limit) (h.closed target e _ htarget he htype)
    refine ⟨storage, σ target, e.rename σ, members.map σ, (h.hasType_iff hid).2 ⟨_, hptr, rfl⟩, ?_,
      ?_, hwalk.eq_ok_iff.2 hsize, rfl⟩
    · rw [h.get?_eq target htarget, he]
      rfl
    · show e.type?.map _ = _
      rw [htype]
      rfl

theorem resolves_iff (h : t.Mirrors σ inside t') (hid : inside v.decl.type) :
    t'.Resolves limit (v.rename σ).decl ↔ t.Resolves limit v.decl := by
  have hstorage : (v.rename σ).decl.storage = v.decl.storage := rfl
  by_cases huniform : v.decl.storage = .uniform
  · rw [resolves_iff_block (hstorage.trans huniform), resolves_iff_block huniform]
    exact exists_congr fun _ => exists_congr fun _ => h.pointsToBlock_iff hid
  · rw [resolves_iff_names (hstorage.trans_ne huniform), resolves_iff_names huniform]
    exact exists_congr fun _ => h.names_iff hid

theorem spoils_iff (h : t.Mirrors σ inside t') (hid : inside v.decl.type) :
    t'.Spoils limit (v.rename σ) ↔ t.Spoils limit v := by
  constructor
  · rintro (⟨kind, hrequired, hvalueless⟩ | ⟨hinterface, hdecorated, hunresolved⟩)
    · exact .valueless kind hrequired hvalueless
    · exact .unresolved hinterface hdecorated ((h.resolves_iff hid).not.1 hunresolved)
  · rintro (⟨kind, hrequired, hvalueless⟩ | ⟨hinterface, hdecorated, hunresolved⟩)
    · exact .valueless kind hrequired hvalueless
    · exact .unresolved hinterface hdecorated ((h.resolves_iff hid).not.2 hunresolved)

theorem showsLocated_iff (h : t.Mirrors σ inside t') (hid : inside v.decl.type)
    {r : LocatedVariable} :
    t'.ShowsLocated limit model (v.rename σ) r ↔ t.ShowsLocated limit model v r :=
  ⟨fun ⟨hmodel, hlocation, hname, htype⟩ => ⟨hmodel, hlocation, hname, (h.names_iff hid).1 htype⟩,
    fun ⟨hmodel, hlocation, hname, htype⟩ => ⟨hmodel, hlocation, hname, (h.names_iff hid).2 htype⟩⟩

theorem showsUniform_iff (h : t.Mirrors σ inside t') (hid : inside v.decl.type) {r : Uniform} :
    t'.ShowsUniform limit model (v.rename σ) r ↔ t.ShowsUniform limit model v r :=
  ⟨fun ⟨hmodel, hbinding, hset, hname, htype⟩ =>
      ⟨hmodel, hbinding, hset, hname, (h.names_iff hid).1 htype⟩,
    fun ⟨hmodel, hbinding, hset, hname, htype⟩ =>
      ⟨hmodel, hbinding, hset, hname, (h.names_iff hid).2 htype⟩⟩

theorem showsBlock_iff (h : t.Mirrors σ inside t') (hid : inside v.decl.type)
    {r : UniformBlock} :
    t'.ShowsBlock limit model (v.rename σ) r ↔ t.ShowsBlock limit model v r :=
  ⟨fun ⟨hmodel, hbinding, hset, hblock⟩ =>
      ⟨hmodel, hbinding, hset, (h.pointsToBlock_iff hid).1 hblock⟩,
    fun ⟨hmodel, hbinding, hset, hblock⟩ =>
      ⟨hmodel, hbinding, hset, (h.pointsToBlock_iff hid).2 hblock⟩⟩

end Mirrors

theorem exists_ok_iff_of_survey {shows : DeclaredVariable → α → Prop} {scan : Traced (List α)}
    (h : t.Survey limit storage shows scan) :
    (∃ found, scan.result = .ok found) ↔
      ∀ v ∈ t.declaredVariables storage, ¬ t.Spoils limit v := by
  unfold Survey at h
  cases hscan : scan.result with
  | ok found =>
    rw [hscan] at h
    exact ⟨fun _ => h.1, fun _ => ⟨found, rfl⟩⟩
  | error fault =>
    rw [hscan] at h
    obtain ⟨v, hv, hspoils⟩ := h
    exact ⟨nofun, fun hall => absurd hspoils (hall v hv)⟩

/-- If renaming takes the variables of one table to those of the other, in any order, and both scans
show the same of a variable and of its renamed form, then they find the same records. -/
theorem sameRecords_of_survey {shows shows' : DeclaredVariable → α → Prop}
    {scan scan' : Traced (List α)}
    (hperm : (t'.declaredVariables storage).Perm
      ((t.declaredVariables storage).map (DeclaredVariable.rename σ)))
    (hspoils : ∀ v, t'.Spoils limit (v.rename σ) ↔ t.Spoils limit v)
    (hshows : ∀ v r, shows' (v.rename σ) r ↔ shows v r)
    (hunique : Relator.RightUnique shows')
    (h : t.Survey limit storage shows scan) (h' : t'.Survey limit storage shows' scan') :
    SameRecords scan' scan := by
  constructor
  · rw [exists_ok_iff_of_survey h, exists_ok_iff_of_survey h']
    constructor
    · intro hall v hv hbad
      exact hall _ (hperm.mem_iff.2 (List.mem_map_of_mem hv)) ((hspoils v).2 hbad)
    · intro hall v' hv' hbad
      obtain ⟨v, hv, rfl⟩ := List.mem_map.1 (hperm.mem_iff.1 hv')
      exact hall v hv ((hspoils v).1 hbad)
  · intro found' found hfound' hfound
    obtain ⟨-, hlist'⟩ := h'.of_eq_ok hfound'
    obtain ⟨-, hlist⟩ := h.of_eq_ok hfound
    -- Both lists of records show the same variables, and a variable is shown by one record only.
    have hrenamed : List.Forall₂ shows'
        (((t.declaredVariables storage).filter (·.Decorated)).map (DeclaredVariable.rename σ))
        found := by
      rw [List.forall₂_map_left_iff]
      exact hlist.imp fun v r => (hshows v r).2
    have hfilter : ((t'.declaredVariables storage).filter (·.Decorated)).Perm
        (((t.declaredVariables storage).filter (·.Decorated)).map
          (DeclaredVariable.rename σ)) := by
      have hdecorated := hperm.filter (·.Decorated)
      rwa [List.filter_map] at hdecorated
    exact List.rel_perm_imp hunique hlist' hrenamed hfilter

end IdTable

end ShaderInterface
