import ShaderInterface.Proofs.GroundTypes
import ShaderInterface.Proofs.TypeWalks

namespace ShaderInterface

/-- What is wrong is a type or something that it refers to, not how deep it is. -/
def Fault.ConcernsType (f : Fault) : Prop :=
  f.category = .malformed ∨ f.category = .unsupportedType

theorem Settles.concernsType {α : Type} {x : Except Fault α} {post : α → Prop}
    (h : Settles x post (·.category = .unsupportedType)) : Settles x post Fault.ConcernsType :=
  h.mono_blame fun _ => .inr

namespace IdTable

def Lengths (t : IdTable) : List UInt32 → List Int → Prop :=
  List.Forall₂ fun id n => ∃ count, t.HasLength id count ∧ n = count.toNat

/-- Behind `k` arrays and pointers stands a type of the shading language, and `g` is that type under
the lengths of the arrays. -/
def Spells (t : IdTable) (k : Nat) (type : TypeDecl) (g : ShaderType) : Prop :=
  ∃ last base lengths, t.chain k type = some last ∧ last.link? = none ∧ t.Grounds last base ∧
    t.Lengths (t.lengthIds k type) lengths ∧ g.Nests lengths base

/-- Why a type is refused, given what the chain still has where the levels end. -/
def Refuses (limit : Int) : Option TypeDecl → Fault → Prop
  | some _, f => f = .typesTooDeep limit
  | none, f => f.ConcernsType

variable {t : IdTable} {limit : Int} {k n : Nat} {id : UInt32} {type decl : TypeDecl}
  {g : ShaderType} {base : BaseType}

theorem settles_lookup_concernsType (t : IdTable) (id : Int) :
    Settles (t.lookup id) (fun _ => True) Fault.ConcernsType := by
  rw [lookup]
  split
  · exact .ok trivial
  · exact .error (.inl rfl)

theorem settles_typeOf_concernsType (t : IdTable) (id : Int) :
    Settles (t.typeOf id) (fun _ => True) Fault.ConcernsType := by
  refine (t.settles_lookup_concernsType id).bind fun e _ => ?_
  split
  · exact .ok trivial
  · exact .error (.inl rfl)

theorem settles_arrayLength_concernsType (t : IdTable) (id : Int) :
    Settles (t.arrayLength id) (fun _ => True) Fault.ConcernsType := by
  apply settles_arrayLength_of_constantOf
  refine (t.settles_lookup_concernsType id).bind fun e _ => ?_
  split
  · exact .error (.inl rfl)
  · exact .error (.inl rfl)
  · exact .ok trivial

theorem settles_ground_concernsType (t : IdTable) (type : TypeDecl) :
    Settles (t.ground type) (fun _ => True) Fault.ConcernsType := by
  cases type with
  | image i => exact (settles_imageType i).concernsType
  | sampledImage id =>
    refine (t.settles_typeOf_concernsType id.toNat).bind fun decl _ => ?_
    exact (settles_samplerType decl).concernsType
  | sampler => exact .error (.inr rfl)
  | vector component count =>
    refine (t.settles_typeOf_concernsType component.toNat).bind fun decl _ => ?_
    exact (settles_vectorType decl count).concernsType
  | _ => exact (TypeDecl.settles_scalarKind _).concernsType.bind fun _ _ => .ok trivial

theorem not_spells_zero (hid : type.link? = some id) : ¬ t.Spells 0 type g := by
  rintro ⟨last, -, -, hlast, hlink, -⟩
  cases hlast
  cases hid.symm.trans hlink

theorem spells_zero_iff (h : type.link? = none) :
    t.Spells 0 type g ↔ ∃ base, t.Grounds type base ∧ g = .base base := by
  constructor
  · rintro ⟨last, base, lengths, hlast, -, hgrounds, hlengths, hnests⟩
    cases hlast
    cases hlengths
    cases hnests
    exact ⟨base, hgrounds, rfl⟩
  · rintro ⟨base, hgrounds, rfl⟩
    exact ⟨type, base, [], rfl, h, hgrounds, .nil, .base base⟩

theorem spells_array_iff {element length : UInt32} (htype : t.HasType element decl) :
    t.Spells (k + 1) (.array element length) g ↔
      ∃ inner count, t.Spells k decl inner ∧ t.HasLength length count ∧
        g = .array inner count.toNat := by
  have hnext : t.next? (.array element length) = some decl := next?_of_link? rfl htype
  rw [Spells, chain_succ_of_next? hnext, lengthIds_succ hnext]
  constructor
  · rintro ⟨last, base, lengths, hlast, hlink, hgrounds, hlengths, hnests⟩
    obtain ⟨n, rest, ⟨count, hcount, rfl⟩, hrest, rfl⟩ := List.forall₂_cons_left_iff.1 hlengths
    cases hnests with
    | array _ hinner =>
      exact ⟨_, count, ⟨last, base, rest, hlast, hlink, hgrounds, hrest, hinner⟩, hcount, rfl⟩
  · rintro ⟨inner, count, ⟨last, base, lengths, hlast, hlink, hgrounds, hlengths, hnests⟩, hcount,
      rfl⟩
    exact ⟨last, base, _, hlast, hlink, hgrounds, .cons ⟨count, hcount, rfl⟩ hlengths,
      .array _ hnests⟩

theorem spells_pointer_iff {storage : StorageClass} {target : UInt32}
    (htype : t.HasType target decl) :
    t.Spells (k + 1) (.pointer storage target) g ↔ t.Spells k decl g := by
  have hnext : t.next? (.pointer storage target) = some decl := next?_of_link? rfl htype
  rw [Spells, chain_succ_of_next? hnext, lengthIds_succ hnext]
  exact Iff.rfl

theorem exists_hasType_of_spells (hid : type.link? = some id) (h : t.Spells (k + 1) type g) :
    ∃ decl, t.HasType id decl := by
  obtain ⟨last, -, -, hlast, -⟩ := h
  by_contra hnone
  rw [chain_succ_eq_none (next?_eq_none_of_untyped hid (not_exists.1 hnone))] at hlast
  cases hlast

theorem not_spells_of_link? (hlink : type.link? = none) : ¬ t.Spells (k + 1) type g := by
  rintro ⟨last, -, -, hlast, -⟩
  rw [chain_succ_eq_none (next?_eq_none_of_link? hlink)] at hlast
  cases hlast

theorem shaderTypeWithin_eq_ok_iff_of_link? (hlink : type.link? = none) :
    t.shaderTypeWithin limit (n + 1) type = .ok g ↔
      t.Spells 0 type g ∨ ∃ k < n, t.Spells (k + 1) type g := by
  have hdeep : ¬ ∃ k < n, t.Spells (k + 1) type g := fun ⟨_, _, h⟩ => not_spells_of_link? hlink h
  rw [or_iff_left hdeep, spells_zero_iff hlink, shaderTypeWithin_of_link? hlink, bind_eq_ok_iff]
  refine exists_congr fun base => and_congr ground_eq_ok_iff ?_
  simp only [pure, Except.pure, Except.ok.injEq, eq_comm]

theorem shaderTypeWithin_eq_ok_iff :
    t.shaderTypeWithin limit n type = .ok g ↔ ∃ k < n, t.Spells k type g := by
  induction n generalizing type g with
  | zero => exact ⟨nofun, fun ⟨k, hk, _⟩ => absurd hk (Nat.not_lt_zero k)⟩
  | succ n ih =>
    -- Either the chain ends here or it takes a step to where a level less is left.
    rw [Nat.exists_lt_succ_left]
    cases type with
    | array element length =>
      have hroot : ¬ t.Spells 0 (.array element length) g := not_spells_zero rfl
      rw [or_iff_right hroot]
      constructor
      · intro h
        obtain ⟨decl, hdecl, h⟩ := bind_eq_ok_iff.1 h
        obtain ⟨inner, hinner, h⟩ := bind_eq_ok_iff.1 h
        obtain ⟨count, hcount, h⟩ := bind_eq_ok_iff.1 h
        cases h
        obtain ⟨k, hk, hspells⟩ := ih.1 hinner
        refine ⟨k, hk, (spells_array_iff (typeOf_eq_ok_iff.1 hdecl)).2 ?_⟩
        exact ⟨inner, count, hspells, arrayLength_eq_ok_iff.1 hcount, rfl⟩
      · rintro ⟨k, hk, h⟩
        obtain ⟨decl, htype⟩ := exists_hasType_of_spells rfl h
        obtain ⟨inner, count, hinner, hcount, rfl⟩ := (spells_array_iff htype).1 h
        refine bind_eq_ok_iff.2 ⟨decl, typeOf_eq_ok_iff.2 htype, ?_⟩
        refine bind_eq_ok_iff.2 ⟨inner, ih.2 ⟨k, hk, hinner⟩, ?_⟩
        exact bind_eq_ok_iff.2 ⟨count, arrayLength_eq_ok_iff.2 hcount, rfl⟩
    | pointer storage target =>
      have hroot : ¬ t.Spells 0 (.pointer storage target) g := not_spells_zero rfl
      rw [or_iff_right hroot]
      constructor
      · intro h
        obtain ⟨decl, hdecl, h⟩ := bind_eq_ok_iff.1 h
        obtain ⟨k, hk, hspells⟩ := ih.1 h
        exact ⟨k, hk, (spells_pointer_iff (typeOf_eq_ok_iff.1 hdecl)).2 hspells⟩
      · rintro ⟨k, hk, h⟩
        obtain ⟨decl, htype⟩ := exists_hasType_of_spells rfl h
        refine bind_eq_ok_iff.2 ⟨decl, typeOf_eq_ok_iff.2 htype, ?_⟩
        exact ih.2 ⟨k, hk, (spells_pointer_iff htype).1 h⟩
    | _ => exact shaderTypeWithin_eq_ok_iff_of_link? rfl

theorem settles_shaderTypeWithin_chain (t : IdTable) (limit : Int) (n : Nat) (type : TypeDecl) :
    Settles (t.shaderTypeWithin limit n type) (fun _ => t.chain n type = none)
      (Refuses limit (t.chain n type)) := by
  induction n generalizing type with
  | zero => exact .error rfl
  | succ n ih =>
    have hnext : ∀ id, type.link? = some id →
        Settles (t.typeOf id.toNat) (fun decl => t.chain (n + 1) type = t.chain n decl)
          (Refuses limit (t.chain (n + 1) type)) := by
      intro id hid
      have htype := (t.settles_typeOf_concernsType id.toNat).and (t.settles_hasType id)
      refine htype.mono (fun decl hdecl => ?_) fun f hf => ?_
      · exact chain_succ_of_next? (next?_of_link? hid hdecl.2) n
      · rw [chain_succ_eq_none (next?_eq_none_of_untyped hid hf.2)]
        exact hf.1
    cases type with
    | array element length =>
      refine (hnext element rfl).bind fun decl hdecl => ?_
      rw [hdecl]
      -- A length is looked up on the way back, when it is known that the chain has ended.
      refine (ih decl).bind fun inner hend => ?_
      rw [hend]
      exact (t.settles_arrayLength_concernsType _).bind fun count _ => .ok rfl
    | pointer storage target =>
      refine (hnext target rfl).bind fun decl hdecl => ?_
      rw [hdecl]
      exact ih decl
    | _ =>
      rw [shaderTypeWithin_of_link? rfl, chain_succ_eq_none (next?_eq_none_of_link? rfl)]
      exact (t.settles_ground_concernsType _).bind fun base _ => .ok rfl

theorem shaderTypeWithin_eq_tooDeep_iff :
    t.shaderTypeWithin limit n type = .error (.typesTooDeep limit) ↔
      ∃ last, t.chain n type = some last := by
  have hsettles := t.settles_shaderTypeWithin_chain limit n type
  constructor
  · intro h
    cases hchain : t.chain n type with
    | some last => exact ⟨last, rfl⟩
    | none =>
      rw [hchain] at hsettles
      rcases hsettles.of_eq_error h with hcategory | hcategory <;> cases hcategory
  · rintro ⟨last, hlast⟩
    rw [hlast] at hsettles
    cases h : t.shaderTypeWithin limit n type with
    | ok g => cases hsettles.of_eq_ok h
    | error f => rw [hsettles.of_eq_error h]

/-- The chain of a type is too deep if it is longer than the limit; else its end is a type of the
shading language under the lengths of the arrays, or a type or a length on it is to blame. -/
theorem shaderType_follows_chain (t : IdTable) (limit : Int) (type : TypeDecl) :
    (t.shaderTypeOf limit type = .error (.typesTooDeep limit) ↔
      limit < 0 ∨ (∀ k : Nat, (k : Int) ≤ limit →
          ∃ decl, t.chain k type = some decl ∧ decl.link?.isSome = true) ∧
        ∃ last, t.chain (limit.toNat + 1) type = some last) ∧
    (∀ g, t.shaderTypeOf limit type = .ok g ↔
      ∃ (k : Nat) (last : TypeDecl) (base : BaseType) (lengths : List Int), (k : Int) ≤ limit ∧
        t.chain k type = some last ∧ last.link? = none ∧ t.Grounds last base ∧
        List.Forall₂ (fun id n => ∃ count, t.HasLength id count ∧ n = (count.toNat : Int))
          (t.lengthIds k type) lengths ∧
        g.Nests lengths base) ∧
    (∀ f, t.shaderTypeOf limit type = .error f →
      f = .typesTooDeep limit ∨ f.category = .malformed ∨ f.category = .unsupportedType) ∧
    ((∃ i j decl, i < j ∧ t.chain i type = some decl ∧ t.chain j type = some decl) →
      ∀ limit', t.shaderTypeOf limit' type = .error (.typesTooDeep limit')) := by
  refine ⟨?_, fun g => ?_, fun f hf => ?_, fun ⟨i, j, decl, hlt, hi, hj⟩ limit' => ?_⟩
  · rw [shaderTypeOf, shaderTypeWithin_eq_tooDeep_iff, levels]
    by_cases hneg : limit < 0
    · have hzero : (limit + 1).toNat = 0 := by omega
      rw [hzero]
      exact ⟨fun _ => .inl hneg, fun _ => ⟨type, rfl⟩⟩
    · have hsucc : (limit + 1).toNat = limit.toNat + 1 := by omega
      rw [hsucc, or_iff_right hneg]
      constructor
      · rintro ⟨last, hlast⟩
        exact ⟨fun k hk => exists_link_of_lt (by omega) hlast, last, hlast⟩
      · exact And.right
  · rw [shaderTypeOf, shaderTypeWithin_eq_ok_iff, levels]
    refine exists_congr fun k => ?_
    have hk : k < (limit + 1).toNat ↔ (k : Int) ≤ limit := by omega
    rw [hk]
    simp only [Spells, Lengths, exists_and_left]
  · have hsettles := t.settles_shaderTypeWithin_chain limit (levels limit) type
    have hrefuses := hsettles.of_eq_error hf
    cases hchain : t.chain (levels limit) type with
    | some last =>
      rw [hchain] at hrefuses
      exact .inl hrefuses
    | none =>
      rw [hchain] at hrefuses
      exact .inr hrefuses
  · exact shaderTypeWithin_eq_tooDeep_iff.2 (exists_chain_of_cycle hlt hi hj _)

/-- A float, a vector of floats, an array of cube shadow samplers, and a float of eight bits. -/
def leafTable : IdTable :=
  ⟨#[{ type? := some (.float 32) }, { type? := some (.vector 0 3) },
    { type? := some (.image ⟨0, .cube, true, false, false, true, .unknown, none⟩) },
    { type? := some (.sampledImage 2) }, { const? := some ⟨0, [2]⟩ },
    { type? := some (.array 3 4) }, { type? := some (.float 8) }]⟩

theorem shaderType_follows_chain_leaves :
    leafTable.shaderTypeOf 0 (.float 32) = .ok (.base (.scalar .float)) ∧
    leafTable.shaderTypeOf 1 (.pointer .input 1) = .ok (.base (.vector .float .three)) ∧
    leafTable.shaderTypeOf 2 (.pointer .uniformConstant 5) =
      .ok (.array (.base (.shadowSampler .cube rfl)) 2) ∧
    ∀ limit g, leafTable.shaderTypeOf limit (.pointer .input 6) ≠ .ok g := by
  refine ⟨?_, ?_, ?_, fun limit g h => ?_⟩
  · exact ((shaderType_follows_chain leafTable 0 _).2.1 _).2
      ⟨0, .float 32, _, [], by decide, rfl, rfl, .scalar .single, .nil, .base _⟩
  · exact ((shaderType_follows_chain leafTable 1 _).2.1 _).2
      ⟨1, .vector 0 3, _, [], by decide, rfl, rfl,
        .vector ⟨_, rfl, rfl⟩ .single (by decide), .nil, .base _⟩
  · exact ((shaderType_follows_chain leafTable 2 _).2.1 _).2
      ⟨2, .sampledImage 2, _, [2], by decide, rfl, rfl,
        .sampledImage ⟨_, rfl, rfl⟩ rfl (by decide),
        .cons ⟨2, ⟨_, 0, [], rfl, rfl⟩, rfl⟩ .nil, .array 2 (.base _)⟩
  · obtain ⟨k, last, base, lengths, -, hlast, hlink, hgrounds, -⟩ :=
      ((shaderType_follows_chain leafTable limit _).2.1 g).1 h
    match k with
    | 0 =>
      cases hlast
      cases hlink
    | 1 =>
      cases hlast
      cases hgrounds with
      | scalar hkind => cases hkind
    | k + 2 => cases hlast

/-- An array of itself is too deep, though its length is not even an id of the table. -/
example : IdTable.shaderTypeOf ⟨#[{ type? := some (.array 0 7) }]⟩ 5 (.array 0 7) =
    .error (.typesTooDeep 5) := by
  decide

end IdTable

end ShaderInterface
