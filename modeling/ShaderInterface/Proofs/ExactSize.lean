import ShaderInterface.Proofs.LayoutAgreement
import ShaderInterface.Proofs.TypeGraph

namespace ShaderInterface

namespace IdTable

/-- The types that can have a size, if their parts do: an array has a length, and a vector or a
matrix a count that there is room for. -/
def HasForm (t : IdTable) : TypeDecl → Prop
  | .array _ length => ∃ count, t.HasLength length count
  | .pointer _ _ | .struct _ => True
  | .vector _ count | .matrix _ count => count ∈ [(2 : UInt32), 3, 4]
  | _ => False

/-- What is needed of a type itself if it is to have a size. -/
structure Sizable (t : IdTable) (type : TypeDecl) : Prop where
  parts : ∀ id ∈ type.parts, ∃ decl, t.HasType id decl
  form : t.HasForm type

/-- The size that a type gets from the sizes of its parts. -/
inductive HasSize (t : IdTable) : TypeDecl → Nat → Prop
  | array {element length count : UInt32} {decl : TypeDecl} {n : Nat}
      (htype : t.HasType element decl) (helement : HasSize t decl n)
      (hlength : t.HasLength length count) : HasSize t (.array element length) (count.toNat * n)
  | pointer {storage : StorageClass} {target : UInt32} {decl : TypeDecl} {n : Nat}
      (htype : t.HasType target decl) (htarget : HasSize t decl n) :
      HasSize t (.pointer storage target) n
  | empty : HasSize t (.struct []) 0
  | member {id : UInt32} {rest : List UInt32} {decl : TypeDecl} {n total : Nat}
      (htype : t.HasType id decl) (hmember : HasSize t decl n)
      (hrest : HasSize t (.struct rest) total) : HasSize t (.struct (id :: rest)) (n + total)
  | vector {component count : UInt32} {n : Nat} (h : (count, n) ∈ [(2, 8), (3, 16), (4, 16)]) :
      HasSize t (.vector component count) n
  | matrix {column count : UInt32} {n : Nat} (h : (count, n) ∈ [(2, 32), (3, 48), (4, 64)]) :
      HasSize t (.matrix column count) n

/-- The tree that a type unfolds to ends within these levels, and each type in it can have a
size. -/
def Fits (t : IdTable) (levels : Nat) (type : TypeDecl) : Prop :=
  ∀ depth node, t.Unfolds type depth node → depth < levels ∧ t.Sizable node

/-- A struct in the tree has a member without a type. -/
def HasHole (t : IdTable) (type : TypeDecl) : Prop :=
  ∃ depth members id, t.Unfolds type depth (.struct members) ∧ id ∈ members ∧
    ∀ decl, ¬ t.HasType id decl

def Cyclic (t : IdTable) (type : TypeDecl) : Prop :=
  ∃ depth node further, t.Unfolds type depth node ∧ t.Unfolds node (further + 1) node

/-- The number that tells a size, of which -1 stands for an unresolved one. -/
def sizeNumber (t : IdTable) (limit : Int) (type : TypeDecl) : Except Fault Int :=
  (t.sizeOf limit type).map fun size? => size?.elim (-1) Int.ofNat

def Measures (t : IdTable) (levels : Nat) (type : TypeDecl) : Option Nat → Prop
  | some n => t.Fits levels type ∧ t.HasSize type n
  | none => t.HasHole type

def MeasuresAll (t : IdTable) (levels : Nat) (members : List UInt32) : Option Nat → Prop
  | some total => (∀ id ∈ members, ∀ decl, t.HasType id decl → t.Fits levels decl) ∧
    t.HasSize (.struct members) total
  | none => ∃ id ∈ members, ∃ decl, t.HasType id decl ∧ t.HasHole decl

variable {t : IdTable} {limit : Int} {levels n n' : Nat} {type decl : TypeDecl}
  {id : UInt32} {members : List UInt32}

theorem mem_of_vectorSize {count : UInt32} {components : VectorSize}
    (h : VectorSize.ofNat? count.toNat = some components) :
    (count, vectorSize components) ∈ [((2 : UInt32), 8), (3, 16), (4, 16)] ∧
      (count, matrixSize components) ∈ [((2 : UInt32), 32), (3, 48), (4, 64)] := by
  have hcount : count = UInt32.ofNat components.toNat := by
    rw [VectorSize.toNat_of_ofNat? h, UInt32.ofNat_toNat]
  subst hcount
  cases components <;> decide

theorem not_mem_of_ofNat? {count : UInt32} (h : VectorSize.ofNat? count.toNat = none) :
    count ∉ [(2 : UInt32), 3, 4] := by
  intro hcount
  simp only [List.mem_cons, List.not_mem_nil, or_false] at hcount
  rcases hcount with rfl | rfl | rfl <;> cases h

theorem mem_of_ofNat? {count : UInt32} {size : VectorSize}
    (h : VectorSize.ofNat? count.toNat = some size) : count ∈ [(2 : UInt32), 3, 4] := by
  have hsize := (mem_of_vectorSize h).1
  simp only [List.mem_cons, List.not_mem_nil, Prod.mk.injEq, or_false] at hsize ⊢
  tauto

theorem eq_of_mem_sizes {count : UInt32} {a b c : Nat}
    (h : (count, n) ∈ [((2 : UInt32), a), (3, b), (4, c)])
    (h' : (count, n') ∈ [((2 : UInt32), a), (3, b), (4, c)]) : n = n' := by
  simp only [List.mem_cons, List.not_mem_nil, Prod.mk.injEq, or_false] at h h'
  rcases h with ⟨rfl, rfl⟩ | ⟨rfl, rfl⟩ | ⟨rfl, rfl⟩ <;> simpa [eq_comm] using h'

theorem HasSize.unique (h : t.HasSize type n) (h' : t.HasSize type n') : n = n' := by
  induction h generalizing n' with
  | array htype _ hlength ih =>
    cases h' with
    | array htype' helement' hlength' =>
      cases htype.unique htype'
      rw [hlength.unique hlength', ih helement']
  | pointer htype _ ih =>
    cases h' with
    | pointer htype' htarget' =>
      cases htype.unique htype'
      exact ih htarget'
  | empty =>
    cases h'
    rfl
  | member htype _ _ ihmember ihrest =>
    cases h' with
    | member htype' hmember' hrest' =>
      cases htype.unique htype'
      rw [ihmember hmember', ihrest hrest']
  | vector h =>
    cases h' with
    | vector h' => exact eq_of_mem_sizes h h'
  | matrix h =>
    cases h' with
    | matrix h' => exact eq_of_mem_sizes h h'

theorem fits_succ_iff : t.Fits (levels + 1) type ↔
    t.Sizable type ∧ ∀ id ∈ type.parts, ∀ decl, t.HasType id decl → t.Fits levels decl := by
  constructor
  · intro h
    refine ⟨(h 0 type (.root type)).2, fun id hid decl htype depth node hnode => ?_⟩
    obtain ⟨hdepth, hsizable⟩ := h (depth + 1) node (.part hid htype hnode)
    exact ⟨by omega, hsizable⟩
  · rintro ⟨hsizable, hparts⟩ depth node hnode
    cases hnode with
    | root => exact ⟨by omega, hsizable⟩
    | part hid htype hnode =>
      obtain ⟨hdepth, hsizable⟩ := hparts _ hid _ htype _ _ hnode
      exact ⟨by omega, hsizable⟩

theorem Fits.mono {levels' : Nat} (h : t.Fits levels type) (hle : levels ≤ levels') :
    t.Fits levels' type := by
  intro depth node hnode
  obtain ⟨hdepth, hsizable⟩ := h depth node hnode
  exact ⟨by omega, hsizable⟩

theorem not_fits_zero : ¬ t.Fits 0 type := by
  intro h
  exact Nat.not_lt_zero 0 (h 0 type (.root type)).1

theorem not_fits_of_part (hid : id ∈ type.parts) (htype : t.HasType id decl)
    (h : ¬ t.Fits levels decl) : ¬ t.Fits (levels + 1) type := by
  intro hfits
  exact h ((fits_succ_iff.1 hfits).2 id hid decl htype)

theorem not_fits_of_untyped (hid : id ∈ type.parts) (h : ∀ decl, ¬ t.HasType id decl) :
    ¬ t.Fits levels type := by
  intro hfits
  obtain ⟨decl, htype⟩ := (hfits 0 type (.root type)).2.parts id hid
  exact h decl htype

theorem not_fits_of_form (h : ¬ t.HasForm type) : ¬ t.Fits levels type := by
  intro hfits
  exact h (hfits 0 type (.root type)).2.form

theorem fits_of_leaf (hparts : type.parts = []) (hform : t.HasForm type) :
    t.Fits (levels + 1) type := by
  refine fits_succ_iff.2 ⟨⟨?_, hform⟩, ?_⟩
  · rw [hparts]
    exact List.forall_mem_nil _
  · rw [hparts]
    exact List.forall_mem_nil _

theorem fits_of_part (hparts : type.parts = [id]) (hform : t.HasForm type)
    (htype : t.HasType id decl) (h : t.Fits levels decl) : t.Fits (levels + 1) type := by
  refine fits_succ_iff.2 ⟨⟨?_, hform⟩, ?_⟩
  · rw [hparts]
    exact List.forall_mem_singleton.2 ⟨decl, htype⟩
  · rw [hparts]
    exact List.forall_mem_singleton.2 fun decl' htype' => htype.unique htype' ▸ h

theorem HasHole.of_part (hid : id ∈ type.parts) (htype : t.HasType id decl)
    (h : t.HasHole decl) : t.HasHole type := by
  obtain ⟨depth, members, hole, hstruct, hmem, hhole⟩ := h
  exact ⟨depth + 1, members, hole, .part hid htype hstruct, hmem, hhole⟩

theorem HasHole.not_fits (h : t.HasHole type) : ¬ t.Fits levels type := by
  obtain ⟨depth, members, hole, hstruct, hmem, hhole⟩ := h
  intro hfits
  obtain ⟨decl, htype⟩ := (hfits depth _ hstruct).2.parts hole hmem
  exact hhole decl htype

/-- Around a cycle there are nodes at every depth. -/
theorem Cyclic.not_fits (h : t.Cyclic type) : ¬ t.Fits levels type := by
  obtain ⟨depth, node, further, hnode, hcycle⟩ := h
  obtain ⟨depth', hle, hdeep⟩ := hcycle.exists_deeper levels
  intro hfits
  have hlt := (hfits _ _ (hnode.trans hdeep)).1
  omega

theorem settles_allTyped_exact (t : IdTable) (members : List UInt32) :
    Settles (t.allTyped members)
      (fun typed => if typed then ∀ id ∈ members, ∃ decl, t.HasType id decl
        else ∃ id ∈ members, ∀ decl, ¬ t.HasType id decl)
      fun _ => ∃ id ∈ members, ∀ decl, ¬ t.HasType id decl := by
  induction members with
  | nil => exact .ok (List.forall_mem_nil _)
  | cons id rest ih =>
    have hrest : (∃ id ∈ rest, ∀ decl, ¬ t.HasType id decl) →
        ∃ id' ∈ id :: rest, ∀ decl, ¬ t.HasType id' decl := by
      rintro ⟨hole, hmem, hhole⟩
      exact ⟨hole, .tail _ hmem, hhole⟩
    have hentry : Settles (t.lookup id.toNat) (fun e => t.get? id.toNat = some e)
        fun _ => ∀ e, ¬ t.get? id.toNat = some e := .of_eq_ok_iff fun _ => lookup_eq_ok_iff
    rw [allTyped]
    refine (hentry.mono_blame fun _ hnone => ?_).bind fun e he => ?_
    · refine ⟨id, .head _, ?_⟩
      rintro decl ⟨e, he, -⟩
      exact hnone e he
    · cases htype : e.type? with
      | none =>
        refine .ok ⟨id, .head _, ?_⟩
        rintro decl ⟨e', he', hdecl⟩
        cases he.symm.trans he'
        cases htype.symm.trans hdecl
      | some decl =>
        refine ih.mono (fun typed htyped => ?_) fun _ => hrest
        cases typed with
        | false => exact hrest htyped
        | true => exact List.forall_mem_cons.2 ⟨⟨decl, e, he, htype⟩, htyped⟩

theorem settles_totalSize_exact {size : UInt32 → Except Fault (Option Nat)}
    (h : ∀ id ∈ members, ∃ decl, t.HasType id decl ∧
      Settles (size id) (t.Measures levels decl) fun _ => ¬ t.Fits levels decl) :
    Settles (totalSize size members) (t.MeasuresAll levels members)
      fun _ => ∃ id ∈ members, ∃ decl, t.HasType id decl ∧ ¬ t.Fits levels decl := by
  induction members with
  | nil => exact .ok ⟨List.forall_mem_nil _, .empty⟩
  | cons id rest ih =>
    obtain ⟨⟨decl, htype, hsize⟩, hrest⟩ := List.forall_mem_cons.1 h
    rw [totalSize]
    refine (hsize.mono_blame fun _ hbad => ⟨id, .head _, decl, htype, hbad⟩).bind fun size? hn => ?_
    cases size? with
    | none => exact .ok ⟨id, .head _, decl, htype, hn⟩
    | some n =>
      obtain ⟨hfits, hn⟩ := hn
      refine ((ih hrest).mono_blame fun _ hbad => ?_).bind fun total? htotal => ?_
      · obtain ⟨other, hmem, hother⟩ := hbad
        exact ⟨other, .tail _ hmem, hother⟩
      · cases total? with
        | none =>
          obtain ⟨hole, hmem, hhole⟩ := htotal
          exact .ok ⟨hole, .tail _ hmem, hhole⟩
        | some total =>
          obtain ⟨hall, htotal⟩ := htotal
          refine .ok ⟨List.forall_mem_cons.2 ⟨fun decl' htype' => ?_, hall⟩,
            .member htype hn htotal⟩
          rwa [← htype.unique htype']

/-- A walk finds the size of every type that fits and refuses every other one, unless it comes upon
a struct with an untyped member. -/
theorem settles_sizeWithin_exact (t : IdTable) (limit : Int) (levels : Nat) (type : TypeDecl) :
    Settles (t.sizeWithin limit levels type) (t.Measures levels type)
      fun _ => ¬ t.Fits levels type := by
  induction levels generalizing type with
  | zero => exact .error not_fits_zero
  | succ levels ih =>
    cases type with
    | array element length =>
      have hmem : element ∈ (TypeDecl.array element length).parts := .head _
      refine ((t.settles_hasType element).mono_blame fun _ => not_fits_of_untyped hmem).bind
        fun decl htype => ?_
      refine ((ih decl).mono_blame fun _ => not_fits_of_part hmem htype).bind fun size? hsize => ?_
      cases size? with
      | none => exact .ok (HasHole.of_part hmem htype hsize)
      -- The length is looked up last, so it does not matter where the element has no size.
      | some n =>
        obtain ⟨hfits, hn⟩ := hsize
        have hlength := t.settles_hasLength length
        refine (hlength.mono_blame fun _ hnone => ?_).bind fun count hcount => ?_
        · exact not_fits_of_form (not_exists.2 hnone)
        · exact .ok ⟨fits_of_part rfl ⟨count, hcount⟩ htype hfits, .array htype hn hcount⟩
    | pointer storage target =>
      have hmem : target ∈ (TypeDecl.pointer storage target).parts := .head _
      refine ((t.settles_hasType target).mono_blame fun _ => not_fits_of_untyped hmem).bind
        fun decl htype => ?_
      refine (ih decl).mono (fun size? hsize => ?_) fun _ => not_fits_of_part hmem htype
      cases size? with
      | none => exact HasHole.of_part hmem htype hsize
      | some n =>
        obtain ⟨hfits, hn⟩ := hsize
        exact ⟨fits_of_part rfl trivial htype hfits, .pointer htype hn⟩
    | struct members =>
      have hbroken : (∃ id ∈ members, ∀ decl, ¬ t.HasType id decl) →
          ¬ t.Fits (levels + 1) (.struct members) := by
        rintro ⟨hole, hmem, hhole⟩
        exact not_fits_of_untyped hmem hhole
      refine ((t.settles_allTyped_exact members).mono_blame fun _ => hbroken).bind
        fun typed htyped => ?_
      cases typed with
      | false =>
        obtain ⟨hole, hmem, hhole⟩ := htyped
        exact .ok ⟨0, members, hole, .root _, hmem, hhole⟩
      -- From here on every member has a type, and only what lies below can be refused.
      | true =>
        have hmembers : ∀ id ∈ members, ∃ decl, t.HasType id decl ∧
            Settles (t.typeOf id.toNat >>= t.sizeWithin limit levels) (t.Measures levels decl)
              fun _ => ¬ t.Fits levels decl := by
          intro id hid
          obtain ⟨decl, htype⟩ := htyped id hid
          refine ⟨decl, htype, ?_⟩
          rw [typeOf_eq_ok_iff.2 htype]
          exact ih decl
        refine (settles_totalSize_exact hmembers).mono (fun total? htotal => ?_) fun _ hbad => ?_
        · cases total? with
          | none =>
            obtain ⟨id, hid, decl, htype, hhole⟩ := htotal
            exact HasHole.of_part hid htype hhole
          | some total =>
            obtain ⟨hfits, htotal⟩ := htotal
            exact ⟨fits_succ_iff.2 ⟨⟨htyped, trivial⟩, hfits⟩, htotal⟩
        · obtain ⟨id, hid, decl, htype, hdeep⟩ := hbad
          exact not_fits_of_part hid htype hdeep
    | matrix column count =>
      rw [sizeWithin]
      cases hsize : VectorSize.ofNat? count.toNat with
      | none => exact .error (not_fits_of_form (not_mem_of_ofNat? hsize))
      | some columns =>
        exact .ok ⟨fits_of_leaf rfl (mem_of_ofNat? hsize), .matrix (mem_of_vectorSize hsize).2⟩
    | vector component count =>
      rw [sizeWithin]
      cases hsize : VectorSize.ofNat? count.toNat with
      | none => exact .error (not_fits_of_form (not_mem_of_ofNat? hsize))
      | some components =>
        exact .ok ⟨fits_of_leaf rfl (mem_of_ofNat? hsize), .vector (mem_of_vectorSize hsize).1⟩
    | void | bool | int | float | image | sampler | sampledImage =>
      exact .error (not_fits_of_form not_false)

theorem fits_levels_iff : t.Fits (IdTable.levels limit) type ↔
    ∀ depth node, t.Unfolds type depth node → (depth : Int) ≤ limit ∧ t.Sizable node := by
  refine forall_congr' fun depth => forall_congr' fun node => imp_congr_right fun _ => ?_
  refine and_congr_left fun _ => ?_
  rw [IdTable.levels]
  omega

theorem sizeNumber_eq_ok_iff {k : Int} : t.sizeNumber limit type = .ok k ↔
    ∃ size?, t.sizeOf limit type = .ok size? ∧ size?.elim (-1) Int.ofNat = k := by
  rw [sizeNumber]
  cases t.sizeOf limit type <;> simp [Except.map]

theorem sizeNumber_eq_ok_natCast_iff :
    t.sizeNumber limit type = .ok (n : Int) ↔ t.sizeOf limit type = .ok (some n) := by
  rw [sizeNumber_eq_ok_iff]
  constructor
  · rintro ⟨_ | m, hsize, hm⟩
    · simp at hm
    · rw [hsize, Int.ofNat.inj hm]
  · intro h
    exact ⟨some n, h, rfl⟩

theorem measures_of_sizeOf {size? : Option Nat} (h : t.sizeOf limit type = .ok size?) :
    t.Measures (IdTable.levels limit) type size? :=
  (t.settles_sizeWithin_exact limit _ type).of_eq_ok h

theorem exists_sizeOf_iff :
    (∃ n, t.sizeOf limit type = .ok (some n)) ↔ t.Fits (IdTable.levels limit) type := by
  have hsize := t.settles_sizeWithin_exact limit (IdTable.levels limit) type
  constructor
  · rintro ⟨n, hn⟩
    exact (measures_of_sizeOf hn).1
  · intro hfits
    rw [sizeOf]
    cases h : t.sizeWithin limit (IdTable.levels limit) type with
    | error fault => exact absurd hfits (hsize.of_eq_error h)
    | ok size? =>
      cases size? with
      | none => exact absurd hfits (HasHole.not_fits (hsize.of_eq_ok h))
      | some n => exact ⟨n, rfl⟩

/-- A size is found exactly if the tree ends within the limit and each type in it can have one. -/
theorem size_exact (t : IdTable) (limit : Int) (type : TypeDecl) :
    ((∃ n : Nat, t.sizeNumber limit type = .ok n) ↔
      ∀ depth node, t.Unfolds type depth node → (depth : Int) ≤ limit ∧ t.Sizable node) ∧
    (∀ n : Nat, t.sizeNumber limit type = .ok n → ∀ n', t.HasSize type n' ↔ n' = n) ∧
    (∀ k : Int, t.sizeNumber limit type = .ok k → k < 0 → k = -1 ∧ t.HasHole type) ∧
    (t.HasHole type ∨ t.Cyclic type →
      ∀ (limit' : Int) (n : Nat), t.sizeNumber limit' type ≠ .ok n) := by
  simp only [ne_eq, sizeNumber_eq_ok_natCast_iff]
  refine ⟨exists_sizeOf_iff.trans fits_levels_iff, fun n hn n' => ?_, fun k hk hneg => ?_,
    fun hbroken limit' n hn => ?_⟩
  · have hsize := (measures_of_sizeOf hn).2
    exact ⟨fun hsize' => hsize'.unique hsize, fun heq => heq ▸ hsize⟩
  · obtain ⟨size?, hsize, rfl⟩ := sizeNumber_eq_ok_iff.1 hk
    cases size? with
    | none => exact ⟨rfl, measures_of_sizeOf hsize⟩
    | some n => exact absurd hneg (Int.not_lt.2 (Int.natCast_nonneg n))
  · have hfits := (measures_of_sizeOf hn).1
    rcases hbroken with hhole | hcyclic
    · exact hhole.not_fits hfits
    · exact hcyclic.not_fits hfits

/-- A pair in 8 bytes and three matrices of 64 bytes each; id 0 has no type. -/
example :
    let t : IdTable := ⟨#[{}, { type? := some (.vector 0 2) }, { type? := some (.matrix 1 4) },
      { const? := some ⟨0, [3]⟩ }, { type? := some (.array 2 3) }]⟩
    t.sizeNumber 2 (.struct [1, 4]) = .ok 200 ∧ t.sizeNumber 2 (.struct [1, 0]) = .ok (-1) ∧
      t.sizeNumber 1 (.struct [1, 4]) = .error (.typesTooDeep 1) := by
  decide

end IdTable

end ShaderInterface
