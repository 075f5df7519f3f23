import ShaderInterface.IdTable.Annotate
import ShaderInterface.Proofs.TableOutline

namespace ShaderInterface

def Annotation.decorations : Annotation → List Decoration
  | .decoration d => [d]
  | _ => []

namespace Entry

variable {e e' : Entry} {a : Annotation} {kinds : List DecorationKind}

/-- An annotation changes members and appends decorations, and nothing else. -/
theorem eq_of_annotate (h : e.annotate a = .ok e') :
    e' = { e with members := e'.members, decorations := e.decorations ++ a.decorations } := by
  cases a with
  | member index =>
    obtain ⟨n, -, hn⟩ := bind_eq_ok_iff.1 h
    cases hn
    simp [modifyMember, Annotation.decorations]
  | memberName index name? =>
    obtain ⟨n, -, hn⟩ := bind_eq_ok_iff.1 h
    cases hn
    simp [nameMember, modifyMember, Annotation.decorations]
  | decoration d =>
    cases h
    rfl

theorem decoration?_of_annotate (h : e.annotate a = .ok e') (kind : DecorationKind) :
    e'.decoration? kind = (e.decoration? kind).or (a.decorations.find? (·.kind == kind)) := by
  rw [eq_of_annotate h]
  exact List.find?_append

theorem outline_of_annotate (h : e.annotate a = .ok e')
    (hfirst : e.var?.isSome = true → ∀ d ∈ a.decorations, d.kind ∈ kinds →
      e.decoration? d.kind ≠ none) : e'.outline kinds = e.outline kinds := by
  have hkept : e.var?.isSome = true →
      kinds.filterMap e'.decoration? = kinds.filterMap e.decoration? := by
    intro hvar
    apply List.filterMap_congr
    intro kind hkind
    rw [decoration?_of_annotate h]
    cases hold : e.decoration? kind with
    | some d => rfl
    | none =>
      rw [Option.none_or, List.find?_eq_none]
      intro d hd hdkind
      have heq : d.kind = kind := eq_of_beq hdkind
      exact hfirst hvar d hd (heq ▸ hkind) (heq ▸ hold)
  have hvar : e'.var? = e.var? := by rw [eq_of_annotate h]
  unfold outline
  rw [hvar]
  rw [eq_of_annotate h] at hkept ⊢
  cases hsome : e.var?.isSome with
  | false => rfl
  | true => simp [hkept hsome]

end Entry

namespace IdTable

variable {t t' : IdTable} {id : Int} {a : Annotation} {kinds : List DecorationKind}

/-- An annotation that is not refused changes one entry. -/
theorem exists_of_annotate (h : t.annotate id a = .ok t') :
    ∃ e e', t.get? id = some e ∧ e.annotate a = .ok e' ∧ t'.size = t.size ∧
      ∀ k, t'.get? k = if k = id then some e' else t.get? k := by
  obtain ⟨e, he, hstep⟩ := bind_eq_ok_iff.1 h
  obtain ⟨e', hannotate, ht'⟩ := bind_eq_ok_iff.1 hstep
  cases ht'
  have hget := lookup_eq_ok_iff.1 he
  refine ⟨e, e', hget, hannotate, Array.size_modify, ?_⟩
  have hid : ¬ id < 0 := by
    intro hneg
    rw [get?, if_pos hneg] at hget
    cases hget
  intro k
  unfold get? at hget ⊢
  rw [if_neg hid] at hget
  by_cases hk : k = id
  · rw [if_pos hk, hk, if_neg hid, Array.getElem?_modify, if_pos rfl, hget]
    rfl
  · rw [if_neg hk]
    split
    · rfl
    · rw [Array.getElem?_modify, if_neg (by omega)]

/-- The annotation gives a variable its first decoration of one of the kinds. -/
def Opens (t : IdTable) (kinds : List DecorationKind) (id : Int) (a : Annotation) : Prop :=
  ∃ e, t.get? id = some e ∧ e.var?.isSome = true ∧
    ∃ d ∈ a.decorations, d.kind ∈ kinds ∧ e.decoration? d.kind = none

instance : Decidable (t.Opens kinds id a) :=
  decidable_of_iff ((t.get? id).any fun e => e.var?.isSome ∧
    ∃ d ∈ a.decorations, d.kind ∈ kinds ∧ e.decoration? d.kind = none)
    (by simp [Opens, Option.any_eq_true])

theorem not_opens_nil : ¬ t.Opens [] id a := by
  intro ⟨e, _, _, d, _, hkind, _⟩
  cases hkind

theorem Opens.of_annotate {id' : Int} {a' : Annotation} (h : t.annotate id a = .ok t')
    (hopens : t'.Opens kinds id' a') : t.Opens kinds id' a' := by
  obtain ⟨e, e', he, hannotate, -, hget⟩ := exists_of_annotate h
  obtain ⟨e₁, he₁, hvar, d, hd, hkind, hnone⟩ := hopens
  rw [hget] at he₁
  by_cases hid : id' = id
  · rw [if_pos hid] at he₁
    cases he₁
    rw [Entry.decoration?_of_annotate hannotate, Option.or_eq_none_iff] at hnone
    rw [Entry.eq_of_annotate hannotate] at hvar
    exact ⟨e, hid ▸ he, hvar, d, hd, hkind, hnone.1⟩
  · rw [if_neg hid] at he₁
    exact ⟨e₁, he₁, hvar, d, hd, hkind, hnone⟩

theorem outline_of_annotate (h : t.annotate id a = .ok t') (hopens : ¬ t.Opens kinds id a) :
    t'.outline kinds = t.outline kinds := by
  obtain ⟨e, e', he, hannotate, hsize, hget⟩ := exists_of_annotate h
  have hentry : e'.outline kinds = e.outline kinds := by
    apply Entry.outline_of_annotate hannotate
    intro hvar d hd hkind hnone
    exact hopens ⟨e, he, hvar, d, hd, hkind, hnone⟩
  apply ext_get?
  · rw [size_outline, size_outline, hsize]
  · intro n _
    rw [get?_outline, get?_outline, hget]
    by_cases hn : (n : Int) = id
    · rw [if_pos hn, hn, he, Option.map_some, Option.map_some, hentry]
    · rw [if_neg hn]

/-- The first decoration of each kind is the same in both, wherever there is one. -/
def KeepsDecorations (t t' : IdTable) : Prop :=
  ∀ id e kind d, t.get? id = some e → e.decoration? kind = some d →
    ∃ e', t'.get? id = some e' ∧ e'.decoration? kind = some d

theorem keepsDecorations_of_annotate (h : t.annotate id a = .ok t') : t.KeepsDecorations t' := by
  obtain ⟨e, e', he, hannotate, -, hget⟩ := exists_of_annotate h
  intro k e₁ kind d he₁ hd
  rw [hget]
  by_cases hk : k = id
  · rw [hk, he] at he₁
    cases he₁
    refine ⟨e', if_pos hk, ?_⟩
    rw [Entry.decoration?_of_annotate hannotate, hd, Option.some_or]
  · exact ⟨e₁, by rw [if_neg hk, he₁], hd⟩

/-- The table behind the annotations. One that is refused changes nothing. -/
def annotateAll (t : IdTable) (steps : List (Int × Annotation)) : IdTable :=
  steps.foldl (fun t s => (t.annotate s.1 s.2).toOption.getD t) t

variable {steps : List (Int × Annotation)}

theorem annotateAll_cons_of_ok {s : Int × Annotation} (h : t.annotate s.1 s.2 = .ok t') :
    t.annotateAll (s :: steps) = t'.annotateAll steps := by
  unfold annotateAll
  rw [List.foldl_cons, h]
  rfl

theorem annotateAll_cons_of_error {s : Int × Annotation} {fault : Fault}
    (h : t.annotate s.1 s.2 = .error fault) :
    t.annotateAll (s :: steps) = t.annotateAll steps := by
  unfold annotateAll
  rw [List.foldl_cons, h]
  rfl

theorem keepsDecorations_annotateAll : t.KeepsDecorations (t.annotateAll steps) := by
  induction steps generalizing t with
  | nil => exact fun id e kind d he hd => ⟨e, he, hd⟩
  | cons s rest ih =>
    cases hstep : t.annotate s.1 s.2 with
    | error fault =>
      rw [annotateAll_cons_of_error hstep]
      exact ih
    | ok t' =>
      rw [annotateAll_cons_of_ok hstep]
      intro id e kind d he hd
      obtain ⟨e', he', hd'⟩ := keepsDecorations_of_annotate hstep id e kind d he hd
      exact ih id e' kind d he' hd'

theorem outline_annotateAll (h : ∀ s ∈ steps, ¬ t.Opens kinds s.1 s.2) :
    (t.annotateAll steps).outline kinds = t.outline kinds := by
  induction steps generalizing t with
  | nil => rfl
  | cons s rest ih =>
    obtain ⟨hs, hrest⟩ := List.forall_mem_cons.1 h
    cases hstep : t.annotate s.1 s.2 with
    | error fault =>
      rw [annotateAll_cons_of_error hstep]
      exact ih hrest
    | ok t' =>
      rw [annotateAll_cons_of_ok hstep, ← outline_of_annotate hstep hs]
      exact ih fun s' hs' hopens => hrest s' hs' (hopens.of_annotate hstep)

/-- Annotations change no type, and the scans only by a first location, binding or set. -/
theorem annotations_keep_types (t : IdTable) (steps : List (Int × Annotation)) :
    t.KeepsDecorations (t.annotateAll steps) ∧
    (∀ limit type,
      (t.annotateAll steps).sizeOf limit type = t.sizeOf limit type ∧
      (t.annotateAll steps).shaderTypeOf limit type = t.shaderTypeOf limit type ∧
      (t.annotateAll steps).layoutOf limit type = t.layoutOf limit type) ∧
    (∀ length, (t.annotateAll steps).arrayLength length = t.arrayLength length) ∧
    ((∀ s ∈ steps, ¬ t.Opens slotKinds s.1 s.2) →
      ∀ limit,
        (t.annotateAll steps).inputLayout limit = t.inputLayout limit ∧
        ∀ model,
          (t.annotateAll steps).inputs limit model = t.inputs limit model ∧
          (t.annotateAll steps).outputs limit model = t.outputs limit model ∧
          (t.annotateAll steps).uniforms limit model = t.uniforms limit model ∧
          (t.annotateAll steps).uniformBlocks limit model = t.uniformBlocks limit model) := by
  have hbare : (t.annotateAll steps).outline [] = t.outline [] :=
    outline_annotateAll fun _ _ => not_opens_nil
  refine ⟨keepsDecorations_annotateAll, fun limit type => ⟨?_, ?_, ?_⟩, fun length => ?_,
    fun hopens limit => ?_⟩
  · rw [← sizeOf_outline (t.annotateAll steps) [], hbare, sizeOf_outline]
  · rw [← shaderTypeOf_outline (t.annotateAll steps) [], hbare, shaderTypeOf_outline]
  · rw [← layoutOf_outline (t.annotateAll steps) [], hbare, layoutOf_outline]
  · rw [← arrayLength_outline (t.annotateAll steps) [], hbare, arrayLength_outline]
  · have hslots := outline_annotateAll hopens
    have hlocated : (t.annotateAll steps).located limit = t.located limit := by
      funext model storage
      rw [← located_outline (t.annotateAll steps), hslots, located_outline]
    refine ⟨?_, fun model => ⟨?_, ?_, ?_, ?_⟩⟩
    · rw [← inputLayout_outline (t.annotateAll steps), hslots, inputLayout_outline]
    · rw [inputs, inputs, hlocated]
    · rw [outputs, outputs, hlocated]
    · rw [← uniforms_outline (t.annotateAll steps), hslots, uniforms_outline]
    · rw [← uniformBlocks_outline (t.annotateAll steps), hslots, uniformBlocks_outline]

def inputTable : IdTable :=
  ⟨#[{}, { type? := some (.int 32 true) }, { type? := some (.pointer .input 1) },
    { decorations := [⟨.location, [0]⟩], var? := some ⟨2, .input, []⟩ },
    { var? := some ⟨2, .input, []⟩ }]⟩

/-- A second location, a named member of a type, and a member that is refused. -/
def harmlessSteps : List (Int × Annotation) :=
  [(3, .decoration ⟨.location, [7]⟩), (1, .memberName 1 (some "x")), (4, .member (-1))]

theorem annotations_keep_types_relocated :
    (∀ s ∈ harmlessSteps, ¬ inputTable.Opens slotKinds s.1 s.2) ∧
      inputTable.annotateAll harmlessSteps ≠ inputTable ∧
      (inputTable.annotateAll harmlessSteps).inputs 64 .vertex = inputTable.inputs 64 .vertex := by
  have hharmless : ∀ s ∈ harmlessSteps, ¬ inputTable.Opens slotKinds s.1 s.2 := by decide
  obtain ⟨-, -, -, hscans⟩ := annotations_keep_types inputTable harmlessSteps
  exact ⟨hharmless, by decide, ((hscans hharmless 64).2 .vertex).1⟩

/-- With a first location the other input is found as well. -/
example :
    ((inputTable.annotateAll [(4, .decoration ⟨.location, [7]⟩)]).inputs 64 .vertex).result ≠
      (inputTable.inputs 64 .vertex).result := by
  decide

end IdTable

end ShaderInterface
