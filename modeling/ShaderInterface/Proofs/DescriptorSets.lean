import Mathlib.Algebra.BigOperators.Group.List.Defs
import Mathlib.Algebra.Ring.Int.Defs
import ShaderInterface.Interface.Reflection
import ShaderInterface.Proofs.ByteOrder
import ShaderInterface.Proofs.CollectedAnswers
import ShaderInterface.Proofs.FirstAppearance

namespace ShaderInterface

/-- The kind of descriptor for a base type that is a sampler or an image. -/
inductive DescriptorType.Suits : BaseType → DescriptorType → Prop
  | samplerBuffer : Suits (.sampler .buffer) .uniformTexelBuffer
  | imageBuffer : Suits (.image .buffer) .storageTexelBuffer
  | sampler {shape : ImageShape} (other : shape ≠ .buffer) :
    Suits (.sampler shape) .combinedImageSampler
  | shadowSampler (shape : ImageShape) (comparable : shape.hasShadow = true) :
    Suits (.shadowSampler shape comparable) .combinedImageSampler
  | image {shape : ImageShape} (other : shape ≠ .buffer) : Suits (.image shape) .storageImage

theorem DescriptorType.exists_suits {t : BaseType} (h : t.isOpaque = true) :
    ∃ type, ofBase t = .ok type ∧ Suits t type := by
  cases t with
  | scalar kind => cases h
  | vector kind size => cases h
  | image shape =>
    by_cases hb : shape = .buffer
    · subst hb
      exact ⟨_, rfl, .imageBuffer⟩
    · refine ⟨.storageImage, ?_, .image hb⟩
      cases shape <;> first | rfl | exact absurd rfl hb
  | sampler shape =>
    by_cases hb : shape = .buffer
    · subst hb
      exact ⟨_, rfl, .samplerBuffer⟩
    · refine ⟨.combinedImageSampler, ?_, .sampler hb⟩
      cases shape <;> first | rfl | exact absurd rfl hb
  | shadowSampler shape comparable => exact ⟨_, rfl, .shadowSampler shape comparable⟩

/-- Neither samplers nor images, however deep in arrays. -/
def ShaderType.isPlain : ShaderType → Bool
  | base (.scalar _) | base (.vector _ _) => true
  | base (.image _) | base (.sampler _) | base (.shadowSampler _ _) => false
  | array element _ => element.isPlain

theorem ShaderType.isPlain_eq (t : ShaderType) : t.isPlain = !t.innermost.isOpaque := by
  induction t with
  | base t => cases t <;> rfl
  | array element n ih => exact ih

namespace Resource

def isPlain : Resource → Bool
  | uniform u => u.type.isPlain
  | block _ => false

/-- The descriptor of a resource: one buffer for a block, and for a uniform as many samplers or
images as its arrays hold. -/
inductive BoundAs : Resource → Descriptor → Prop
  | block (b : UniformBlock) : BoundAs (.block b) ⟨b.name?, b.slot, .uniformBuffer, 1⟩
  | uniform (u : Uniform) {lengths : List Int} {base : BaseType} {type : DescriptorType}
    (nests : u.type.Nests lengths base) (suits : DescriptorType.Suits base type) :
    BoundAs (.uniform u) ⟨u.name?, u.slot, type, lengths.prod⟩

theorem descriptor?_cases (x : Resource) :
    (x.isPlain = true ∧ x.descriptor? = .ok none) ∨
      x.isPlain = false ∧ ∃ d, x.descriptor? = .ok (some d) ∧ x.BoundAs d := by
  cases x with
  | block b => exact .inr ⟨rfl, _, rfl, .block b⟩
  | uniform u =>
    have hplain : (uniform u).isPlain = !u.type.innermost.isOpaque := u.type.isPlain_eq
    rw [hplain, descriptor?]
    cases hopaque : u.type.innermost.isOpaque with
    | false => exact .inl ⟨rfl, rfl⟩
    | true =>
      obtain ⟨type, htype, hsuits⟩ := DescriptorType.exists_suits hopaque
      refine .inr ⟨rfl, _, ?_, .uniform u u.type.nests hsuits⟩
      rw [if_pos rfl, htype]
      rfl

theorem settles_reportedDescriptor? (x : Resource) :
    Settles x.reportedDescriptor?.result
      (fun d? => ¬ False ∧ (x.isPlain = false ↔ d?.isSome = true) ∧
        ∀ d ∈ d?, x.descriptor? = .ok (some d) ∧ x.BoundAs d)
      fun _ => False := by
  rw [reportedDescriptor?]
  rcases x.descriptor?_cases with ⟨hplain, hx⟩ | ⟨hplain, d, hx, hd⟩
  · rw [hx]
    exact .ok ⟨id, by simp [hplain], fun d hd => nomatch hd⟩
  · rw [hx]
    refine .ok ⟨id, by simp [hplain], fun d' hd' => ?_⟩
    cases hd'
    exact ⟨rfl, hd⟩

end Resource

namespace Descriptor

/-- `sets` is `found` by sets, in the order in which these first appear, each set by ascending
binding and stable. -/
structure Grouped (found : List Descriptor) (sets : List (Int × List Descriptor)) : Prop where
  perm : (sets.flatMap Prod.snd).Perm found
  set_eq : ∀ p ∈ sets, ∀ d ∈ p.2, d.slot.set = p.1
  ne_nil : ∀ p ∈ sets, p.2 ≠ []
  nodup : (sets.map Prod.fst).Nodup
  firstAppearance : sets.Pairwise fun p q =>
    (found.map (·.slot.set)).idxOf p.1 < (found.map (·.slot.set)).idxOf q.1
  sorted : ∀ p ∈ sets, p.2.Pairwise fun a b => a.slot.binding ≤ b.slot.binding
  stable : ∀ p ∈ sets, ∀ n, p.2.filter (·.slot.binding == n) =
    found.filter fun d => d.slot.set == p.1 && d.slot.binding == n

/-- `index` leads from each name that is not empty to the last descriptor with it, as the sets are
gone through. -/
structure Indexed (sets : List (Int × List Descriptor)) (index : List (String × Descriptor)) :
    Prop where
  nodup : (index.map Prod.fst).Nodup
  name_mem_iff : ∀ name, name ∈ index.map Prod.fst ↔
    name ≠ "" ∧ ∃ d ∈ sets.flatMap Prod.snd, d.name? = some name
  last : ∀ name d, (name, d) ∈ index → d.name? = some name ∧
    ∃ before after, sets.flatMap Prod.snd = before ++ d :: after ∧
      ∀ later ∈ after, later.name? ≠ some name

theorem binding_le_trans (a b c : Descriptor) :
    decide (a.slot.binding ≤ b.slot.binding) → decide (b.slot.binding ≤ c.slot.binding) →
      decide (a.slot.binding ≤ c.slot.binding) := by
  simp only [decide_eq_true_eq]
  omega

theorem binding_le_total (a b : Descriptor) :
    decide (a.slot.binding ≤ b.slot.binding) || decide (b.slot.binding ≤ a.slot.binding) := by
  simp only [Bool.or_eq_true, decide_eq_true_eq]
  omega

theorem map_fst_bySet (found : List Descriptor) :
    (bySet found).map Prod.fst = (found.map (·.slot.set)).eraseDups := by
  rw [bySet, List.map_map]
  exact List.map_id _

theorem eq_of_mem_bySet {found : List Descriptor} {p : Int × List Descriptor}
    (h : p ∈ bySet found) : p.1 ∈ found.map (·.slot.set) ∧
      p.2 = (found.filter (·.slot.set == p.1)).mergeSort
        fun a b => a.slot.binding ≤ b.slot.binding := by
  obtain ⟨set, hset, rfl⟩ := List.mem_map.1 h
  exact ⟨List.mem_eraseDups.1 hset, rfl⟩

theorem grouped_bySet (found : List Descriptor) : Grouped found (bySet found) := by
  constructor
  case perm =>
    have hsets : ((found.map (·.slot.set)).eraseDups.flatMap
        fun set => found.filter (·.slot.set == set)).Perm found := by
      refine flatMap_filter_perm (nodup_eraseDups _) fun d hd => ?_
      exact List.mem_eraseDups.2 (List.mem_map_of_mem hd)
    rw [bySet, List.flatMap_map]
    exact (List.Perm.flatMap_left _ fun set _ => List.mergeSort_perm _ _).trans hsets
  case set_eq =>
    intro p hp d hd
    rw [(eq_of_mem_bySet hp).2, List.mem_mergeSort] at hd
    exact eq_of_beq (List.mem_filter.1 hd).2
  case ne_nil =>
    intro p hp hnil
    obtain ⟨hset, hsorted⟩ := eq_of_mem_bySet hp
    obtain ⟨d, hd, hdset⟩ := List.mem_map.1 hset
    have hdp : d ∈ p.2 := by
      rw [hsorted, List.mem_mergeSort]
      exact List.mem_filter.2 ⟨hd, beq_iff_eq.2 hdset⟩
    rw [hnil] at hdp
    cases hdp
  case nodup =>
    rw [map_fst_bySet]
    exact nodup_eraseDups _
  case firstAppearance =>
    have horder := pairwise_idxOf_eraseDups (found.map (·.slot.set))
    rw [← map_fst_bySet, List.pairwise_map] at horder
    exact horder
  case sorted =>
    intro p hp
    rw [(eq_of_mem_bySet hp).2]
    exact (List.pairwise_mergeSort binding_le_trans binding_le_total _).imp of_decide_eq_true
  case stable =>
    intro p hp n
    have hequal : ∀ a b : Descriptor, a.slot.binding == n → b.slot.binding == n →
        decide (a.slot.binding ≤ b.slot.binding) := by
      simp only [beq_iff_eq, decide_eq_true_eq]
      omega
    rw [(eq_of_mem_bySet hp).2, filter_mergeSort_eq binding_le_trans binding_le_total hequal,
      List.filter_filter]
    exact List.filter_congr fun d _ => Bool.and_comm _ _

theorem named?_eq_some_iff {d : Descriptor} {p : String × Descriptor} :
    named? d = some p ↔ p.2 = d ∧ d.name? = some p.1 ∧ p.1 ≠ "" := by
  obtain ⟨name, d'⟩ := p
  unfold named?
  split
  · next h => simp [h]
  · next h => simp [h]
  · next text hne h =>
    rw [h]
    simp only [Option.some.injEq, Prod.mk.injEq]
    constructor
    · rintro ⟨rfl, rfl⟩
      exact ⟨rfl, rfl, hne⟩
    · rintro ⟨rfl, rfl, -⟩
      exact ⟨rfl, rfl⟩

/-- The entry of a name is decided by the last descriptor with it; those without a name do not
count. -/
theorem indexed_byName (sets : List (Int × List Descriptor)) : Indexed sets (byName sets) := by
  constructor
  case nodup =>
    rw [byName, map_latestBy]
    exact nodup_eraseDups _
  case name_mem_iff =>
    intro name
    simp only [byName, map_latestBy, List.mem_eraseDups, List.mem_map, List.mem_filterMap,
      named?_eq_some_iff]
    constructor
    · rintro ⟨p, ⟨d, hd, -, hname, hne⟩, rfl⟩
      exact ⟨hne, d, hd, hname⟩
    · rintro ⟨hne, d, hd, hname⟩
      exact ⟨(name, d), ⟨d, hd, rfl, hname, hne⟩, rfl⟩
  case last =>
    intro name d h
    obtain ⟨before, after, hsplit, hafter⟩ := mem_latestBy_iff.1 h
    obtain ⟨front, back, hall, -, hback⟩ := List.filterMap_eq_append_iff.1 hsplit
    obtain ⟨skipped, d', rest, hrest, -, hd', hafter'⟩ := List.filterMap_eq_cons_iff.1 hback
    obtain ⟨hdd, hname, hne⟩ := named?_eq_some_iff.1 hd'
    dsimp only at hdd hname hne hafter
    subst hdd
    refine ⟨hname, front ++ skipped, rest, ?_, fun later hlater hsame => ?_⟩
    · rw [hall, hrest, List.append_assoc]
    · have hlater' : (name, later) ∈ after := by
        rw [← hafter']
        exact List.mem_filterMap.2 ⟨later, hlater, named?_eq_some_iff.2 ⟨rfl, hsame, hne⟩⟩
      exact hafter _ hlater' rfl

end Descriptor

def Reflection.resources (r : Reflection) : List Resource :=
  r.uniforms.map Resource.uniform ++ r.blocks.map Resource.block

/-- The descriptors of all resources that are not plain, grouped by set and found by name. -/
theorem descriptors_grouped {order : String} {limit : Int} {data : ModuleData} {r : Reflection}
    (h : (reflect order limit data).result = .ok r) :
    (∀ x ∈ r.resources, (x.isPlain = true ∧ x.descriptor? = .ok none) ∨
      x.isPlain = false ∧ ∃ d, x.descriptor? = .ok (some d) ∧ x.BoundAs d) ∧
    ∃ found,
      List.Forall₂ (fun x d => x.descriptor? = .ok (some d) ∧ x.BoundAs d)
        (r.resources.filter (·.isPlain = false)) found ∧
      Descriptor.Grouped found r.sets ∧ Descriptor.Indexed r.sets r.descriptors := by
  refine ⟨fun x _ => x.descriptor?_cases, ?_⟩
  rw [result_reflect] at h
  obtain ⟨m, -, h⟩ := bind_eq_ok_iff.1 h
  obtain ⟨inputs, -, h⟩ := Traced.result_bind_eq_ok.1 h
  obtain ⟨outputs, -, h⟩ := Traced.result_bind_eq_ok.1 h
  obtain ⟨uniforms, -, h⟩ := Traced.result_bind_eq_ok.1 h
  obtain ⟨blocks, -, h⟩ := Traced.result_bind_eq_ok.1 h
  obtain ⟨found, hfound, h⟩ := Traced.result_bind_eq_ok.1 h
  cases h
  have hbound := (Settles.result_collect_filter fun x _ => x.settles_reportedDescriptor?).of_eq_ok
    hfound
  exact ⟨found, hbound.2, Descriptor.grouped_bySet found, Descriptor.indexed_byName _⟩

/-- A sampler in set 1, six of the same name in set 0, a plain uniform, and a block in set 3. -/
def sharedNameData : ModuleData :=
  .words
    [0x07230203, 0x10000, 0, 20, 0,
     0x30005, 5, 0x74, 0x30005, 6, 0x74, 0x30005, 11, 0x42,
     0x40047, 5, 33, 2, 0x40047, 5, 34, 1,
     0x40047, 6, 33, 1, 0x40047, 6, 34, 0,
     0x40047, 9, 33, 0, 0x40047, 9, 34, 2,
     0x40047, 13, 33, 0, 0x40047, 13, 34, 3,
     0x30016, 1, 32,
     0x90019, 2, 1, 1, 0, 0, 0, 1, 0,
     0x3001b, 3, 2,
     0x40020, 4, 0, 3, 0x4003b, 4, 5, 0,
     0x40015, 14, 32, 0, 0x4002b, 14, 15, 2, 0x4002b, 14, 16, 3,
     0x4001c, 17, 3, 15, 0x4001c, 18, 17, 16, 0x40020, 19, 0, 18, 0x4003b, 19, 6, 0,
     0x40020, 8, 0, 1, 0x4003b, 8, 9, 0,
     0x40017, 10, 1, 4, 0x3001e, 11, 10, 0x40020, 12, 2, 11, 0x4003b, 12, 13, 2]

def sharedNameSets : List (Int × List Descriptor) :=
  [(1, [⟨some "t", ⟨2, 1⟩, .combinedImageSampler, 1⟩]),
   (0, [⟨some "t", ⟨1, 0⟩, .combinedImageSampler, 6⟩]),
   (3, [⟨some "B", ⟨0, 3⟩, .uniformBuffer, 1⟩])]

def sharedNameIndex : List (String × Descriptor) :=
  [("t", ⟨some "t", ⟨1, 0⟩, .combinedImageSampler, 6⟩),
   ("B", ⟨some "B", ⟨0, 3⟩, .uniformBuffer, 1⟩)]

theorem descriptors_grouped_shared_name :
    ∃ r found, (reflect "little" 64 sharedNameData).result = .ok r ∧ r.sets = sharedNameSets ∧
      r.descriptors = sharedNameIndex ∧ Descriptor.Grouped found r.sets ∧
      Descriptor.Indexed r.sets r.descriptors := by
  have hshown : (reflect "little" 64 sharedNameData).result.map
      (fun r => (r.sets, r.descriptors)) = .ok (sharedNameSets, sharedNameIndex) := by
    decide +kernel
  cases hr : (reflect "little" 64 sharedNameData).result with
  | error fault =>
    rw [hr] at hshown
    cases hshown
  | ok r =>
    rw [hr] at hshown
    obtain ⟨hsets, hindex⟩ := Prod.mk.inj (Except.ok.inj hshown)
    obtain ⟨-, found, -, hgrouped, hindexed⟩ := descriptors_grouped hr
    exact ⟨r, found, rfl, hsets, hindex, hgrouped, hindexed⟩

end ShaderInterface
