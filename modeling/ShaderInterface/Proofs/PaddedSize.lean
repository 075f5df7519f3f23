import ShaderInterface.Proofs.LengthConstant

namespace ShaderInterface

/-- As many bytes as are packed, and up to once more. -/
def Pads (packed n : Nat) : Prop :=
  packed ≤ n ∧ n ≤ 2 * packed

namespace Pads

variable {packed packed' n n' : Nat}

theorem zero : Pads 0 0 := by
  simp [Pads]

theorem add (h : Pads packed n) (h' : Pads packed' n') : Pads (packed + packed') (n + n') := by
  unfold Pads at *
  omega

theorem mul (h : Pads packed n) (k : Nat) : Pads (k * packed) (k * n) := by
  refine ⟨Nat.mul_le_mul_left k h.1, ?_⟩
  calc k * n
      ≤ k * (2 * packed) := Nat.mul_le_mul_left k h.2
    _ = 2 * (k * packed) := Nat.mul_left_comm k 2 packed

end Pads

def TypeDecl.IsWord : TypeDecl → Prop
  | int width _ => width = 32
  | float width => width = 32
  | _ => False

namespace IdTable

structure WordVector (t : IdTable) (component count : UInt32) : Prop where
  component : ∃ decl, t.HasType component decl ∧ decl.IsWord
  count : count ∈ [(2 : UInt32), 3, 4]

/-- Vectors of words, matrices of two to four such vectors, and arrays of and pointers to these, at
any depth. -/
inductive Plain (t : IdTable) : TypeDecl → Prop
  | vector {component count : UInt32} (h : t.WordVector component count) :
      Plain t (.vector component count)
  | matrix {column count component rows : UInt32}
      (hcolumn : t.HasType column (.vector component rows)) (h : t.WordVector component rows)
      (hcount : count ∈ [(2 : UInt32), 3, 4]) : Plain t (.matrix column count)
  | array {element length : UInt32} {decl : TypeDecl} (htype : t.HasType element decl)
      (helement : Plain t decl) : Plain t (.array element length)
  | pointer {storage : StorageClass} {target : UInt32} {decl : TypeDecl}
      (htype : t.HasType target decl) (htarget : Plain t decl) :
      Plain t (.pointer storage target)

def PlainMember (t : IdTable) (id : UInt32) (l : Layout) : Prop :=
  ∃ decl, t.HasType id decl ∧ t.Plain decl ∧ ∃ limit, t.layoutOf limit decl = .ok l

variable {t : IdTable} {limit : Int} {levels n : Nat} {type decl : TypeDecl} {l : Layout}
  {members : List UInt32} {layouts : List Layout}

theorem size_of_isWord (hword : type.IsWord) (h : t.layoutWithin limit levels type = .ok l) :
    l.size = 4 := by
  cases levels with
  | zero => cases h
  | succ levels =>
    cases type with
    | int width signed =>
      cases hword
      cases signed <;> cases h <;> rfl
    | float width =>
      cases hword
      cases h
      rfl
    | _ => cases hword

theorem WordVector.size_eq {component count : UInt32} (hvector : t.WordVector component count)
    (h : t.layoutWithin limit levels (.vector component count) = .ok l) :
    l.size = count.toNat * 4 := by
  obtain ⟨decl, htype, hword⟩ := hvector.component
  cases levels with
  | zero => cases h
  | succ levels =>
    rw [layoutWithin_vector htype] at h
    obtain ⟨inner, hinner, hblock⟩ := bind_eq_ok_iff.1 h
    rw [Layout.eq_of_block?_eq_some (Layout.orFault_eq_ok_iff.1 hblock)]
    simp [Layout.size, size_of_isWord hword hinner]

theorem exists_layout_of_matrix {column count : UInt32} (htype : t.HasType column decl)
    (h : t.layoutWithin limit levels (.matrix column count) = .ok l) :
    ∃ below inner, t.layoutWithin limit below decl = .ok inner ∧
      l.size = count.toNat * inner.size := by
  cases levels with
  | zero => cases h
  | succ below =>
    rw [layoutWithin_matrix htype] at h
    obtain ⟨inner, hinner, hrepeat⟩ := bind_eq_ok_iff.1 h
    exact ⟨below, inner, hinner,
      Layout.size_of_repeat?_eq_some (Layout.orFault_eq_ok_iff.1 hrepeat)⟩

theorem exists_layout_of_array {element length count : UInt32} (htype : t.HasType element decl)
    (hlength : t.HasLength length count)
    (h : t.layoutWithin limit levels (.array element length) = .ok l) :
    ∃ below inner, t.layoutWithin limit below decl = .ok inner ∧
      l.size = count.toNat * inner.size := by
  cases levels with
  | zero => cases h
  | succ below =>
    rw [layoutWithin_array htype (arrayLength_eq_ok_iff.2 hlength)] at h
    obtain ⟨inner, hinner, hrepeat⟩ := bind_eq_ok_iff.1 h
    exact ⟨below, inner, hinner,
      Layout.size_of_repeat?_eq_some (Layout.orFault_eq_ok_iff.1 hrepeat)⟩

theorem exists_layout_of_pointer {storage : StorageClass} {target : UInt32}
    (htype : t.HasType target decl)
    (h : t.layoutWithin limit levels (.pointer storage target) = .ok l) :
    ∃ below, t.layoutWithin limit below decl = .ok l := by
  cases levels with
  | zero => cases h
  | succ below =>
    rw [layoutWithin_pointer htype] at h
    exact ⟨below, h⟩

theorem pads_of_mem_vectorSizes {count : UInt32}
    (hn : (count, n) ∈ [((2 : UInt32), 8), (3, 16), (4, 16)]) : Pads (count.toNat * 4) n := by
  simp only [List.mem_cons, List.not_mem_nil, Prod.mk.injEq, or_false] at hn
  rcases hn with ⟨rfl, rfl⟩ | ⟨rfl, rfl⟩ | ⟨rfl, rfl⟩ <;> simp [Pads]

/-- The column of a matrix is given the room of four components, however many it has. -/
theorem WordVector.pads_column {component rows : UInt32} (h : t.WordVector component rows) :
    Pads (rows.toNat * 4) 16 := by
  have hrows := h.count
  simp only [List.mem_cons, List.not_mem_nil, or_false] at hrows
  rcases hrows with rfl | rfl | rfl <;> simp [Pads]

theorem eq_of_mem_matrixSizes {count : UInt32}
    (hn : (count, n) ∈ [((2 : UInt32), 32), (3, 48), (4, 64)]) : n = count.toNat * 16 := by
  simp only [List.mem_cons, List.not_mem_nil, Prod.mk.injEq, or_false] at hn
  rcases hn with ⟨rfl, rfl⟩ | ⟨rfl, rfl⟩ | ⟨rfl, rfl⟩ <;> rfl

theorem Plain.pads (hplain : t.Plain type) (hsize : t.HasSize type n)
    (hlayout : t.layoutWithin limit levels type = .ok l) : Pads l.size n := by
  induction hplain generalizing n levels l with
  | vector h =>
    cases hsize with
    | vector hn =>
      rw [h.size_eq hlayout]
      exact pads_of_mem_vectorSizes hn
  | matrix hcolumn h _ =>
    cases hsize with
    | matrix hn =>
      obtain ⟨below, inner, hinner, hl⟩ := exists_layout_of_matrix hcolumn hlayout
      rw [hl, h.size_eq hinner, eq_of_mem_matrixSizes hn]
      exact h.pads_column.mul _
  | array htype _ ih =>
    cases hsize with
    | array htype' helement hlength =>
      cases htype.unique htype'
      obtain ⟨below, inner, hinner, hl⟩ := exists_layout_of_array htype hlength hlayout
      rw [hl]
      exact (ih helement hinner).mul _
  | pointer htype _ ih =>
    cases hsize with
    | pointer htype' htarget =>
      cases htype.unique htype'
      obtain ⟨below, htarget'⟩ := exists_layout_of_pointer htype hlayout
      exact ih htarget htarget'

theorem Plain.not_hasHole (hplain : t.Plain type) : ¬ t.HasHole type := by
  intro ⟨depth, members, hole, hunfolds, hmem, hhole⟩
  induction hplain generalizing depth with
  | vector h =>
    cases hunfolds with
    | part hid _ _ => cases hid
  | matrix _ _ _ =>
    cases hunfolds with
    | part hid _ _ => cases hid
  | array htype _ ih =>
    cases hunfolds with
    | part hid htype' hbelow =>
      cases List.mem_singleton.1 hid
      cases htype.unique htype'
      exact ih _ hbelow
  | pointer htype _ ih =>
    cases hunfolds with
    | part hid htype' hbelow =>
      cases List.mem_singleton.1 hid
      cases htype.unique htype'
      exact ih _ hbelow

theorem exists_plain_of_forall₂ (h : List.Forall₂ t.PlainMember members layouts) :
    ∀ id ∈ members, ∃ decl, t.HasType id decl ∧ t.Plain decl := by
  induction h with
  | nil => exact List.forall_mem_nil _
  | cons hmember _ ih =>
    obtain ⟨decl, htype, hplain, -⟩ := hmember
    exact List.forall_mem_cons.2 ⟨⟨decl, htype, hplain⟩, ih⟩

theorem not_hasHole_of_members (h : ∀ id ∈ members, ∃ decl, t.HasType id decl ∧ t.Plain decl) :
    ¬ t.HasHole (.struct members) := by
  intro ⟨depth, inner, hole, hunfolds, hmem, hhole⟩
  cases hunfolds with
  | root =>
    obtain ⟨decl, htype, -⟩ := h hole hmem
    exact hhole decl htype
  | part hid htype hbelow =>
    obtain ⟨decl, htype', hplain⟩ := h _ hid
    cases htype.unique htype'
    exact hplain.not_hasHole ⟨_, inner, hole, hbelow, hmem, hhole⟩

theorem pads_of_members (h : List.Forall₂ t.PlainMember members layouts)
    (hsize : t.HasSize (.struct members) n) : Pads (layouts.map Layout.size).sum n := by
  induction h generalizing n with
  | nil =>
    cases hsize
    exact .zero
  | cons hmember _ ih =>
    obtain ⟨decl, htype, hplain, limit, hlayout⟩ := hmember
    cases hsize with
    | member htype' hn hrest =>
      cases htype.unique htype'
      rw [List.map_cons, List.sum_cons]
      exact (hplain.pads hn hlayout).add (ih hrest)

theorem exists_of_sizeOf {size? : Option Nat} (hwhole : ¬ t.HasHole type)
    (h : t.sizeOf limit type = .ok size?) : ∃ n, size? = some n ∧ t.HasSize type n := by
  have hmeasures := measures_of_sizeOf h
  cases size? with
  | none => exact absurd hmeasures hwhole
  | some n => exact ⟨n, rfl, hmeasures.2⟩

/-- A struct has a size within some limit if each member has one within a limit of its own. -/
theorem exists_sizeOf_struct
    (h : ∀ id ∈ members, ∃ decl limit n, t.HasType id decl ∧
      t.sizeOf limit decl = .ok (some n)) :
    ∃ limit n, t.sizeOf limit (.struct members) = .ok (some n) := by
  have hlevels : ∃ enough, ∀ id ∈ members, ∃ decl, t.HasType id decl ∧ t.Fits enough decl := by
    induction members with
    | nil => exact ⟨0, List.forall_mem_nil _⟩
    | cons id rest ih =>
      obtain ⟨⟨decl, limit, n, htype, hn⟩, hrest⟩ := List.forall_mem_cons.1 h
      obtain ⟨enough, henough⟩ := ih hrest
      refine ⟨max (IdTable.levels limit) enough, List.forall_mem_cons.2 ⟨?_, ?_⟩⟩
      · exact ⟨decl, htype, (measures_of_sizeOf hn).1.mono (Nat.le_max_left _ _)⟩
      · intro id' hid'
        obtain ⟨decl', htype', hfits⟩ := henough id' hid'
        exact ⟨decl', htype', hfits.mono (Nat.le_max_right _ _)⟩
  obtain ⟨enough, henough⟩ := hlevels
  refine ⟨enough, exists_sizeOf_iff.2 (?_ : t.Fits (enough + 1) _)⟩
  refine fits_succ_iff.2 ⟨⟨fun id hid => ?_, trivial⟩, fun id hid decl htype => ?_⟩
  · obtain ⟨decl, htype, -⟩ := henough id hid
    exact ⟨decl, htype⟩
  · obtain ⟨decl', htype', hfits⟩ := henough id hid
    rwa [htype.unique htype']

/-- A plain type, or a struct of such types, takes its packed size and at most as much again. -/
theorem padded_size_brackets_packed (t : IdTable) :
    (∀ type, t.Plain type → ∀ limit limit' size? l, t.sizeOf limit type = .ok size? →
      t.layoutOf limit' type = .ok l → ∃ n, size? = some n ∧ l.size ≤ n ∧ n ≤ 2 * l.size) ∧
    (∀ members layouts, List.Forall₂ t.PlainMember members layouts →
      ((∀ id ∈ members, ∃ decl limit n, t.HasType id decl ∧ t.sizeOf limit decl = .ok (some n)) →
        ∃ limit n, t.sizeOf limit (.struct members) = .ok (some n)) ∧
      ∀ limit size?, t.sizeOf limit (.struct members) = .ok size? → ∃ n, size? = some n ∧
        (layouts.map Layout.size).sum ≤ n ∧ n ≤ 2 * (layouts.map Layout.size).sum) ∧
    (∀ limit model blocks, (t.uniformBlocks limit model).result = .ok blocks →
      List.Forall₂ (fun v b => ∃ storage target members,
          t.HasType v.decl.type (.pointer storage target) ∧ t.HasType target (.struct members) ∧
          ∀ layouts, List.Forall₂ t.PlainMember members layouts →
            (layouts.map Layout.size).sum ≤ b.size ∧
              b.size ≤ 2 * (layouts.map Layout.size).sum)
        ((t.declaredVariables .uniform).filter (·.Decorated)) blocks) := by
  refine ⟨?_, ?_, ?_⟩
  · intro type hplain limit limit' size? l hsize hlayout
    obtain ⟨n, rfl, hn⟩ := exists_of_sizeOf hplain.not_hasHole hsize
    exact ⟨n, rfl, hplain.pads hn hlayout⟩
  · intro members layouts h
    refine ⟨exists_sizeOf_struct, ?_⟩
    intro limit size? hsize
    have hwhole := not_hasHole_of_members (exists_plain_of_forall₂ h)
    obtain ⟨n, rfl, hn⟩ := exists_of_sizeOf hwhole hsize
    exact ⟨n, rfl, pads_of_members h hn⟩
  · intro limit model blocks hblocks
    refine ((survey_uniformBlocks model).of_eq_ok hblocks).2.imp ?_
    intro v b hshows
    obtain ⟨storage, target, e, members, hpointer, he, hmembers, hsize, -⟩ := hshows.block
    refine ⟨storage, target, members, hpointer, ⟨e, he, hmembers⟩, ?_⟩
    intro layouts h
    exact pads_of_members h (measures_of_sizeOf hsize).2

/-- A vector of three, five matrices of two such vectors, and a block of both. -/
def blockTable : IdTable :=
  ⟨#[{}, { type? := some (.float 32) }, { type? := some (.vector 1 3) },
    { type? := some (.matrix 2 2) }, { const? := some ⟨0, [5]⟩ }, { type? := some (.array 3 4) },
    { type? := some (.struct [2, 5]) }, { type? := some (.pointer .uniform 6) }]⟩

theorem padded_size_brackets_packed_block :
    List.Forall₂ blockTable.PlainMember [2, 5]
        [.block (.scalar .float32) [3], .block (.scalar .float32) [5, 2, 3]] ∧
      blockTable.sizeOf 64 (.struct [2, 5]) = .ok (some 176) ∧ 132 ≤ 176 ∧ 176 ≤ 2 * 132 := by
  have hvector : blockTable.WordVector 1 3 := ⟨⟨.float 32, ⟨_, rfl, rfl⟩, rfl⟩, by decide⟩
  have hmatrix : blockTable.Plain (.matrix 2 2) := .matrix ⟨_, rfl, rfl⟩ hvector (by decide)
  have hmembers : List.Forall₂ blockTable.PlainMember [2, 5]
      [.block (.scalar .float32) [3], .block (.scalar .float32) [5, 2, 3]] := by
    refine .cons ⟨_, ⟨_, rfl, rfl⟩, .vector hvector, 64, by decide⟩ (.cons ?_ .nil)
    exact ⟨_, ⟨_, rfl, rfl⟩, .array ⟨_, rfl, rfl⟩ hmatrix, 64, by decide⟩
  have hsize : blockTable.sizeOf 64 (.struct [2, 5]) = .ok (some 176) := by decide
  obtain ⟨-, hstructs, -⟩ := padded_size_brackets_packed blockTable
  obtain ⟨n, hn, hbounds⟩ := (hstructs _ _ hmembers).2 64 _ hsize
  cases hn
  exact ⟨hmembers, hsize, hbounds⟩

end IdTable

end ShaderInterface
