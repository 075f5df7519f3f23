import Mathlib.Algebra.BigOperators.Group.List.Basic
import Mathlib.Algebra.Ring.Int.Defs
import ShaderInterface.Proofs.LayoutAgreement

namespace ShaderInterface

/-- The kind of scalar in a base type, and for a vector how many; none for a handle. -/
def BaseType.contents? : BaseType → Option (ScalarKind × List Nat)
  | scalar kind => some (kind, [])
  | vector kind size => some (kind, [size.toNat])
  | _ => none

theorem ScalarLayout.size_pos (s : ScalarLayout) : 0 < s.size := by
  cases s <;> decide

namespace Layout

/-- What array levels around `counts` scalars of `size` bytes may be: not too many, none too long,
and at no level too large. -/
structure Bounded (size : Nat) (counts : List Nat) (lengths : List Int) : Prop where
  dimensions : lengths.length + counts.length ≤ 64
  extents : ∀ n ∈ lengths, 0 ≤ n ∧ n ≤ 2 ^ 31 - 1
  sizes : ∀ inner, inner <:+ lengths → inner.prod * (counts.prod * size : Nat) ≤ 2 ^ 31 - 1

/-- The lengths in front of a zero are multiplied all the same, with a limit of their own. -/
structure WithinLimits (size : Nat) (counts : List Nat) (lengths : List Int) : Prop
    extends Bounded size counts lengths where
  counted : ∀ inner, inner <:+ lengths → (inner.takeWhile (· ≠ 0)).prod ≤ 2 ^ 63 - 1

variable {e l r : Layout} {s : ScalarLayout} {size bound : Nat} {counts lengths : List Nat}
  {n : Int} {ns rest shape : List Int}

theorem size_eq_prod (l : Layout) : l.size = l.shape.prod * l.element.size := by
  rw [size_eq_foldr]
  induction l.shape with
  | nil => rw [List.foldr_nil, List.prod_nil, Nat.one_mul]
  | cons n rest ih => rw [List.foldr_cons, ih, List.prod_cons, Nat.mul_assoc]

theorem exists_block?_iff : (∃ r, block? e shape = some r) ↔
    e.size ≠ 0 ∧ shape.length ≤ maxDimensions ∧ (∀ n ∈ shape, 0 ≤ n ∧ n ≤ maxExtent) ∧
      countedElements (shape.map Int.toNat) ≤ maxCount ∧
      (block e (shape.map Int.toNat)).size ≤ maxExtent := by
  rw [block?]
  split
  · exact iff_of_true ⟨_, rfl⟩ ‹_›
  · refine iff_of_false ?_ ‹_›
    rintro ⟨r, h⟩
    cases h

theorem natCast_prod (h : ∀ n ∈ ns, 0 ≤ n) : ((ns.map Int.toNat).prod : Int) = ns.prod := by
  induction ns with
  | nil => rfl
  | cons n rest ih =>
    obtain ⟨hn, hrest⟩ := List.forall_mem_cons.1 h
    rw [List.map_cons, List.prod_cons, List.prod_cons, Int.natCast_mul, ih hrest,
      Int.toNat_of_nonneg hn]

theorem natCast_countedElements (h : ∀ n ∈ ns, 0 ≤ n) :
    (countedElements (ns.map Int.toNat) : Int) = (ns.takeWhile (· ≠ 0)).prod := by
  have hzero : ∀ n ∈ ns, (n.toNat != 0) = decide (n ≠ 0) := by
    intro n hn
    have hn := h n hn
    rw [bne, beq_eq_decide, ← decide_not, decide_eq_decide]
    omega
  have hmap : (ns.map Int.toNat).takeWhile (· != 0) =
      (ns.takeWhile (· ≠ 0)).map Int.toNat := by
    induction ns with
    | nil => rfl
    | cons n rest ih =>
      obtain ⟨hn, hrest⟩ := List.forall_mem_cons.1 hzero
      rw [List.map_cons, List.takeWhile_cons, List.takeWhile_cons, hn]
      split
      · rw [ih (fun m hm => h m (.tail _ hm)) hrest, List.map_cons]
      · rfl
  rw [← natCast_prod fun n hn => h n (List.takeWhile_subset _ hn), ← hmap]
  rfl

theorem countedElements_of_notMem (h : 0 ∉ lengths) : countedElements lengths = lengths.prod := by
  have hall : lengths.takeWhile (· != 0) = lengths := by
    rw [List.takeWhile_eq_self_iff]
    intro n hn
    rw [bne_iff_ne]
    rintro rfl
    exact h hn
  rw [countedElements, hall]
  rfl

theorem countedElements_append_of_mem (h : 0 ∈ lengths) (counts : List Nat) :
    countedElements (lengths ++ counts) = countedElements lengths := by
  rw [countedElements, countedElements, List.takeWhile_append, if_neg]
  intro hlength
  have hself := List.takeWhile_sublist (fun n : Nat => n != 0) |>.eq_of_length hlength
  exact absurd (List.takeWhile_eq_self_iff.1 hself 0 h) (by decide)

/-- Lengths without a zero that are not too large together are soon counted. -/
theorem countedElements_append_le_iff (hcounts : ∀ c ∈ counts, 0 < c)
    (h : lengths.prod * counts.prod ≤ bound) :
    countedElements (lengths ++ counts) ≤ bound ↔ countedElements lengths ≤ bound := by
  by_cases hzero : 0 ∈ lengths
  · rw [countedElements_append_of_mem hzero]
  · have hall : 0 ∉ lengths ++ counts := fun h =>
      (List.mem_append.1 h).elim hzero fun h => Nat.lt_irrefl 0 (hcounts 0 h)
    rw [countedElements_of_notMem hall, countedElements_of_notMem hzero, List.prod_append]
    have hpos : 0 < counts.prod := List.prod_pos_iff_forall_pos_nat.2 hcounts
    exact iff_of_true h (Nat.le_trans (Nat.le_mul_of_pos_right _ hpos) h)

theorem withinLimits_cons_iff : WithinLimits size counts (n :: rest) ↔
    WithinLimits size counts rest ∧ rest.length + 1 + counts.length ≤ 64 ∧
      (0 ≤ n ∧ n ≤ 2 ^ 31 - 1) ∧ (n :: rest).prod * (counts.prod * size : Nat) ≤ 2 ^ 31 - 1 ∧
      ((n :: rest).takeWhile (· ≠ 0)).prod ≤ 2 ^ 63 - 1 := by
  constructor
  · intro h
    have hsuffix : ∀ inner, inner <:+ rest → inner <:+ n :: rest := fun inner hinner =>
      List.suffix_cons_iff.2 (.inr hinner)
    have hdimensions := h.dimensions
    rw [List.length_cons] at hdimensions
    obtain ⟨hn, hrest⟩ := List.forall_mem_cons.1 h.extents
    exact ⟨⟨⟨by omega, hrest, fun inner hinner => h.sizes inner (hsuffix inner hinner)⟩,
      fun inner hinner => h.counted inner (hsuffix inner hinner)⟩, hdimensions, hn,
      h.sizes _ List.suffix_rfl, h.counted _ List.suffix_rfl⟩
  · rintro ⟨h, hdimensions, hn, hsize, hcount⟩
    refine ⟨⟨hdimensions, List.forall_mem_cons.2 ⟨hn, h.extents⟩, fun inner hinner => ?_⟩,
      fun inner hinner => ?_⟩
    · rcases List.suffix_cons_iff.1 hinner with rfl | hinner
      · exact hsize
      · exact h.sizes inner hinner
    · rcases List.suffix_cons_iff.1 hinner with rfl | hinner
      · exact hcount
      · exact h.counted inner hinner

theorem natCast_size_block (h : ∀ n ∈ ns, 0 ≤ n) (s : ScalarLayout) (counts : List Nat) :
    ((block (.scalar s) (ns.map Int.toNat ++ counts)).size : Int) =
      ns.prod * (counts.prod * s.size : Nat) := by
  rw [size_eq_prod, shape, List.prod_append, Nat.mul_assoc, Int.natCast_mul, natCast_prod h]
  rfl

theorem prod_le_of_size_block_le
    (h : (block (.scalar s) (lengths ++ counts)).size ≤ maxExtent) :
    lengths.prod * counts.prod ≤ maxCount := by
  rw [size_eq_prod, shape, List.prod_append] at h
  calc lengths.prod * counts.prod
      ≤ lengths.prod * counts.prod * s.size := Nat.le_mul_of_pos_right _ s.size_pos
    _ ≤ maxExtent := h
    _ ≤ maxCount := by decide

theorem WithinLimits.le_maxExtent (h : WithinLimits size counts rest)
    (hcounts : ∀ c ∈ counts, c ≤ maxExtent) :
    ∀ m ∈ rest.map Int.toNat ++ counts, m ≤ maxExtent := by
  intro m hm
  rcases List.mem_append.1 hm with hm | hm
  · obtain ⟨k, hk, rfl⟩ := List.mem_map.1 hm
    have hextent := h.extents k hk
    simp only [maxExtent]
    omega
  · exact hcounts m hm

theorem exists_repeat?_iff (hs : r.element = .scalar s)
    (hr : r.shape = rest.map Int.toNat ++ counts)
    (hcounts : ∀ c ∈ counts, 0 < c ∧ c ≤ maxExtent) (hrest : WithinLimits s.size counts rest) :
    (∃ l, r.repeat? n = some l) ↔ WithinLimits s.size counts (n :: rest) := by
  have hlengths : (n :: r.shape.map Int.ofNat).map Int.toNat =
      (n :: rest).map Int.toNat ++ counts := by
    rw [List.map_cons, List.map_map, hr]
    exact congrArg _ (List.map_id' _)
  have hdimensions : (n :: r.shape.map Int.ofNat).length = rest.length + 1 + counts.length := by
    rw [List.length_cons, List.length_map, hr, List.length_append, List.length_map]
    omega
  have hinside : ∀ m ∈ r.shape.map Int.ofNat, 0 ≤ m ∧ m ≤ maxExtent := by
    rw [hr, List.forall_mem_map]
    intro m hm
    have hle := hrest.le_maxExtent (fun c hc => (hcounts c hc).2) m hm
    exact ⟨Int.natCast_nonneg m, Int.ofNat_le.2 hle⟩
  have hsize : (scalar s).size ≠ 0 := Nat.ne_of_gt s.size_pos
  rw [repeat?, exists_block?_iff, hlengths, withinLimits_cons_iff, and_iff_right hrest, hs,
    and_iff_right hsize, hdimensions, List.forall_mem_cons, and_iff_left hinside]
  refine and_congr Iff.rfl (and_congr_right fun hn => ?_)
  have hnonneg : ∀ m ∈ n :: rest, 0 ≤ m :=
    List.forall_mem_cons.2 ⟨hn.1, fun m hm => (hrest.extents m hm).1⟩
  have hblock : (block (.scalar s) ((n :: rest).map Int.toNat ++ counts)).size ≤ maxExtent ↔
      (n :: rest).prod * (counts.prod * s.size : Nat) ≤ 2 ^ 31 - 1 := by
    rw [← natCast_size_block hnonneg, maxExtent]
    omega
  rw [and_comm, ← hblock]
  refine and_congr_right fun hfits => ?_
  have hproduct := prod_le_of_size_block_le hfits
  rw [countedElements_append_le_iff (fun c hc => (hcounts c hc).1) hproduct,
    ← natCast_countedElements hnonneg, maxCount]
  omega

theorem settles_stack_within (hl : l.element = .scalar s)
    (hcounts : ∀ c ∈ l.shape, 0 < c ∧ c ≤ maxExtent) (hinner : WithinLimits s.size l.shape [])
    (lengths : List Int) :
    Settles (stack lengths (.ok l))
      (fun r => WithinLimits s.size l.shape lengths ∧ r.element = .scalar s ∧
        r.shape = lengths.map Int.toNat ++ l.shape)
      fun fault => fault = .layoutTooLarge ∧ ¬ WithinLimits s.size l.shape lengths := by
  induction lengths with
  | nil => exact .ok ⟨hinner, hl, rfl⟩
  | cons n rest ih =>
    have hsplit : WithinLimits s.size l.shape (n :: rest) → WithinLimits s.size l.shape rest :=
      fun h => (withinLimits_cons_iff.1 h).1
    refine (ih.mono_blame fun fault h => ⟨h.1, fun hlimits => h.2 (hsplit hlimits)⟩).bind ?_
    rintro inner ⟨hrest, helement, hshape⟩
    have hmade := exists_repeat?_iff (n := n) helement hshape hcounts hrest
    cases hrepeat : inner.repeat? n with
    | none =>
      rw [hrepeat] at hmade
      exact .error ⟨rfl, fun hlimits => nomatch hmade.2 hlimits⟩
    | some r =>
      refine .ok ⟨hmade.1 ⟨r, hrepeat⟩, (element_of_repeat?_eq_some hrepeat).trans helement, ?_⟩
      rw [shape_of_repeat?_eq_some hrepeat, hshape]
      rfl

end Layout

namespace BaseType

variable {base : BaseType} {kind : ScalarKind} {counts : List Nat}

theorem exists_contents? (h : base.isOpaque = false) :
    ∃ kind counts, base.contents? = some (kind, counts) := by
  cases base with
  | scalar | vector => exact ⟨_, _, rfl⟩
  | image | sampler | shadowSampler => cases h

theorem exists_layout_of_contents? (h : base.contents? = some (kind, counts)) :
    ∃ l, base.layout = .ok l ∧ l.element = .scalar kind.layout ∧ l.shape = counts := by
  cases base with
  | scalar | vector =>
    cases h
    exact ⟨_, rfl, rfl, rfl⟩
  | image | sampler | shadowSampler => cases h

theorem counts_le_of_contents? (h : base.contents? = some (kind, counts)) :
    counts.length ≤ 1 ∧ counts.prod ≤ 4 ∧ ∀ c ∈ counts, 0 < c ∧ c ≤ 4 := by
  cases base with
  | scalar =>
    cases h
    decide
  | vector kind size =>
    cases h
    cases size <;> decide
  | image | sampler | shadowSampler => cases h

theorem withinLimits_of_contents? (h : base.contents? = some (kind, counts)) :
    Layout.WithinLimits kind.layout.size counts [] := by
  obtain ⟨hlength, hprod, -⟩ := counts_le_of_contents? h
  have hsize : kind.layout.size ≤ 8 := by cases kind <;> decide
  have htotal : counts.prod * kind.layout.size ≤ 4 * 8 := Nat.mul_le_mul hprod hsize
  refine ⟨⟨?_, List.forall_mem_nil _, fun inner hinner => ?_⟩, fun inner hinner => ?_⟩
  · rw [List.length_nil]
    omega
  · rw [List.suffix_nil.1 hinner, List.prod_nil, Int.one_mul]
    omega
  · rw [List.suffix_nil.1 hinner]
    decide

end BaseType

/-- An array of anything but handles is one block over a scalar, if it is within the limits. -/
theorem ShaderType.layout_flattens (t : ShaderType) :
    (t.innermost.isOpaque = true → t.layout = .error (.opaqueLayout t.innermost)) ∧
    (t.innermost.isOpaque = false → ∃ kind counts,
      t.innermost.contents? = some (kind, counts) ∧
      (Layout.WithinLimits kind.layout.size counts t.lengths →
        ∃ l, t.layout = .ok l ∧ l.element = .scalar kind.layout ∧
          l.shape = t.lengths.map Int.toNat ++ counts ∧
          l.size = l.shape.prod * kind.layout.size) ∧
      (¬ Layout.WithinLimits kind.layout.size counts t.lengths →
        t.layout = .error .layoutTooLarge)) := by
  rw [layout_eq_stack]
  refine ⟨fun hhandle => ?_, fun hplain => ?_⟩
  · rw [BaseType.layout_of_isOpaque hhandle, Layout.stack_error]
  · obtain ⟨kind, counts, hcontents⟩ := BaseType.exists_contents? hplain
    obtain ⟨inner, hinner, helement, rfl⟩ := BaseType.exists_layout_of_contents? hcontents
    have hcounts : ∀ c ∈ inner.shape, 0 < c ∧ c ≤ Layout.maxExtent := fun c hc =>
      ((BaseType.counts_le_of_contents? hcontents).2.2 c hc).imp_right fun h =>
        Nat.le_trans h (by decide)
    have hsettles := Layout.settles_stack_within helement hcounts
      (BaseType.withinLimits_of_contents? hcontents) t.lengths
    rw [hinner]
    refine ⟨kind, inner.shape, hcontents, fun hlimits => ?_, fun hbeyond => ?_⟩
    · cases hstack : Layout.stack t.lengths (.ok inner) with
      | ok l =>
        obtain ⟨-, hscalar, hshape⟩ := hsettles.of_eq_ok hstack
        refine ⟨l, rfl, hscalar, hshape, ?_⟩
        rw [l.size_eq_prod, hscalar]
        rfl
      | error fault => exact absurd hlimits (hsettles.of_eq_error hstack).2
    · cases hstack : Layout.stack t.lengths (.ok inner) with
      | ok l => exact absurd (hsettles.of_eq_ok hstack).1 hbeyond
      | error fault => rw [(hsettles.of_eq_error hstack).1]

def emptyFloats : ShaderType :=
  .array (.array (.array (.array (.base (.scalar .float)) 0) 3) 0x7FFFFFFF) 0x7FFFFFFF

/-- Every level is small enough, and yet the outermost has no layout: the lengths in front of the
zero multiply to more than can be counted. -/
theorem ShaderType.layout_of_emptyFloats :
    emptyFloats.innermost = .scalar .float ∧ Layout.Bounded 4 [] emptyFloats.lengths ∧
      emptyFloats.layout = .error .layoutTooLarge := by
  refine ⟨rfl, ⟨by decide, by decide, fun inner hinner => ?_⟩, by decide⟩
  have hlengths : emptyFloats.lengths = [0x7FFFFFFF, 0x7FFFFFFF, 3, 0] := rfl
  simp only [hlengths, List.suffix_cons_iff, List.suffix_nil] at hinner
  rcases hinner with rfl | rfl | rfl | rfl | rfl <;> decide

end ShaderInterface
