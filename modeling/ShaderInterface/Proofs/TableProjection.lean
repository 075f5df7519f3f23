import ShaderInterface.Proofs.Framing
import ShaderInterface.Proofs.HeaderOrder
import ShaderInterface.Proofs.Projection

namespace ShaderInterface

namespace IdTable

theorem get?_natCast (t : IdTable) (n : Nat) : t.get? n = t.entries[n]? := by
  rw [get?, if_neg (by omega), Int.toNat_natCast]

theorem lookup_eq_ok_iff {t : IdTable} {id : Int} {e : Entry} :
    t.lookup id = .ok e ↔ t.get? id = some e := by
  unfold lookup
  cases t.get? id <;> simp

theorem ext_get? {t t' : IdTable} (hsize : t.size = t'.size)
    (h : ∀ n < t.size, t.get? n = t'.get? n) : t = t' := by
  have hentries : t.entries = t'.entries := by
    apply Array.ext hsize
    intro n hn hn'
    have hget := h n hn
    rwa [get?_natCast, get?_natCast, Array.getElem?_eq_getElem hn, Array.getElem?_eq_getElem hn',
      Option.some.injEq] at hget
  exact congrArg IdTable.mk hentries

theorem get?_modify (t : IdTable) (id k : UInt32) (f : Entry → Entry) :
    (t.modify id f).get? k.toNat = (t.get? k.toNat).map fun e => if id = k then f e else e := by
  rw [get?_natCast, get?_natCast, modify, Array.getElem?_modify]
  by_cases h : id = k
  · rw [if_pos (congrArg UInt32.toNat h)]
    simp only [if_pos h]
  · rw [if_neg fun he => h (UInt32.toNat_inj.1 he)]
    simp only [if_neg h, Option.map_id']

theorem get?_blank {bound n : Nat} (h : n < bound) : (blank bound).get? n = some {} := by
  rw [get?_natCast, blank, Array.getElem?_replicate, if_pos h]

theorem size_blank (bound : Nat) : (blank bound).size = bound :=
  Array.size_replicate

theorem size_modify (t : IdTable) (id : UInt32) (f : Entry → Entry) :
    (t.modify id f).size = t.size :=
  Array.size_modify

end IdTable

namespace Module

open Instruction

theorem ids_apply_of_target?_eq_none {i : Instruction} (h : i.target? = none) (m : Module) :
    (m.apply i).ids = m.ids := by
  cases i with
  | entryPoint | otherMode => rfl
  | _ => cases h

theorem ids_apply_of_target?_eq_some {i : Instruction} {target : UInt32}
    (h : i.target? = some target) (m : Module) :
    (m.apply i).ids = m.ids.modify target (·.tell target i) := by
  cases i with
  | entryPoint | otherMode => cases h
  | _ =>
    cases h
    apply congrArg (m.ids.modify _)
    funext e
    simp [Entry.tell, Member.tell, Entry.nameMember, Entry.decorate, Entry.decorateMember,
      Entry.modifyMember]

/-- An instruction changes the entry of its target as it tells, and every other stays. -/
theorem get?_apply (m : Module) (i : Instruction) (k : UInt32) :
    (m.apply i).ids.get? k.toNat = (m.ids.get? k.toNat).map fun e => e.tell k i := by
  by_cases h : i.target? = some k
  · rw [ids_apply_of_target?_eq_some h, IdTable.get?_modify]
    simp only [if_pos]
  · have htell : (fun e => Entry.tell k e i) = id := funext (Entry.tell_of_target?_ne h)
    rw [htell, Option.map_id, id]
    cases htarget : i.target? with
    | none => rw [ids_apply_of_target?_eq_none htarget]
    | some target =>
      have hne : target ≠ k := fun he => h (he ▸ htarget)
      rw [ids_apply_of_target?_eq_some htarget, IdTable.get?_modify]
      simp only [if_neg hne, Option.map_id']

theorem size_ids_apply (m : Module) (i : Instruction) : (m.apply i).ids.size = m.ids.size := by
  cases i with
  | entryPoint point => rfl
  | otherMode function mode => rfl
  | _ => exact IdTable.size_modify _ _ _

theorem entryPoint?_apply (m : Module) (i : Instruction) :
    (m.apply i).entryPoint? = i.entryPoint?.or m.entryPoint? := by
  cases i <;> rfl

theorem build_concat (h : Header) (is : List Instruction) (i : Instruction) :
    build h (is ++ [i]) = (build h is).apply i :=
  List.foldl_concat apply (blank h) i is

theorem get?_build {h : Header} {k : UInt32} (hk : k < h.bound) (is : List Instruction) :
    (build h is).ids.get? k.toNat = some (Entry.project is k) := by
  induction is using List.reverseRecOn with
  | nil => exact IdTable.get?_blank (UInt32.lt_iff_toNat_lt.1 hk)
  | append_singleton is i ih =>
    rw [build_concat, get?_apply, ih, Option.map_some, Entry.project_concat]

theorem size_ids_build (h : Header) (is : List Instruction) :
    (build h is).ids.size = h.bound.toNat := by
  induction is using List.reverseRecOn with
  | nil => exact IdTable.size_blank h.bound.toNat
  | append_singleton is i ih => rw [build_concat, size_ids_apply, ih]

theorem entryPoint?_build (h : Header) (is : List Instruction) :
    (build h is).entryPoint? = last Instruction.entryPoint? is := by
  induction is using List.reverseRecOn with
  | nil => rfl
  | append_singleton is i ih => rw [build_concat, entryPoint?_apply, ih, last_concat]

/-- Also for a function outside the table, of which no instruction can have spoken. -/
theorem localSize?_build {h : Header} {is : List Instruction}
    (hids : ∀ i ∈ is, ∀ id ∈ i.ids, id.toNat < h.bound.toNat) :
    (build h is).localSize? = last (localSizeOf? (build h is).entryPoint.function) is := by
  rw [localSize?]
  generalize (build h is).entryPoint.function = function
  by_cases hlt : function < h.bound
  · rw [get?_build hlt, Option.bind_some, Entry.project]
  · have hle : h.bound.toNat ≤ function.toNat := UInt32.le_iff_toNat_le.1 (UInt32.not_lt.1 hlt)
    have hget : (build h is).ids.get? function.toNat = none := by
      rw [IdTable.get?_natCast, Array.getElem?_eq_none]
      exact (size_ids_build h is).trans_le hle
    rw [hget, Option.bind_none, eq_comm, last_eq_none_iff]
    intro i hi
    cases i with
    | localSize target size =>
      apply if_neg
      rintro rfl
      exact Nat.not_lt.2 hle (hids _ hi target List.mem_cons_self)
    | _ => rfl

/-- A module holds, about each id below the bound, the last or all that the instructions say. -/
structure Projects (m : Module) (h : Header) (is : List Instruction) : Prop where
  header_eq : m.header = h
  size_eq : m.ids.entries.size = h.bound.toNat
  entry_eq : ∀ k < h.bound, m.ids.entries[k.toNat]? = some (Entry.project is k)
  entryPoint?_eq : m.entryPoint? = last Instruction.entryPoint? is
  entryPoint_eq : m.entryPoint = (m.entryPoint?).getD ⟨.unknown, 0, "main", []⟩
  localSize?_eq : m.localSize? = last (localSizeOf? m.entryPoint.function) is

theorem projects_build {h : Header} {is : List Instruction}
    (hids : ∀ i ∈ is, ∀ id ∈ i.ids, id.toNat < h.bound.toNat) : (build h is).Projects h is where
  header_eq := build_header h is
  size_eq := size_ids_build h is
  entry_eq k hk := by rw [← IdTable.get?_natCast, get?_build hk]
  entryPoint?_eq := entryPoint?_build h is
  entryPoint_eq := rfl
  localSize?_eq := localSize?_build hids

theorem projects_of_program {words : List UInt32} {h : Header} {is : List Instruction}
    (hprogram : program words = .ok (h, is)) : (build h is).Projects h is := by
  obtain ⟨body, frames, -, -, hread⟩ := program_eq_ok_iff.1 hprogram
  exact projects_build (Frame.ids_lt_of_forall₂ (Frame.forall₂_of_readAll hread))

theorem exists_projects_of_decode {words : List UInt32} {m : Module}
    (h : (decode words).result = .ok m) :
    ∃ is, program words = .ok (m.header, is) ∧ m.Projects m.header is := by
  obtain ⟨is, hprogram, hbuild⟩ := exists_program_of_decode h
  have hprojects := projects_of_program hprogram
  rw [← hbuild] at hprojects
  exact ⟨is, hprogram, hprojects⟩

theorem Projects.unique {m m' : Module} {h : Header} {is : List Instruction}
    (hm : m.Projects h is) (hm' : m'.Projects h is) : m = m' := by
  have hids : m.ids = m'.ids := by
    apply IdTable.ext_get? (hm.size_eq.trans hm'.size_eq.symm)
    intro n hn
    have hn : n < h.bound.toNat := hm.size_eq ▸ hn
    have hlt : n < UInt32.size := Nat.lt_trans hn h.bound.toNat_lt
    have hk : UInt32.ofNat n < h.bound := by
      rwa [UInt32.lt_iff_toNat_lt, UInt32.toNat_ofNat_of_lt' hlt]
    have hentry := (hm.entry_eq _ hk).trans (hm'.entry_eq _ hk).symm
    rwa [UInt32.toNat_ofNat_of_lt' hlt, ← IdTable.get?_natCast, ← IdTable.get?_natCast] at hentry
  have hpoint := hm.entryPoint?_eq.trans hm'.entryPoint?_eq.symm
  have hheader := hm.header_eq.trans hm'.header_eq.symm
  cases m
  cases m'
  exact congr (congr (congrArg Module.mk hheader) hids) hpoint

/-- The table is the projection of the instructions that the words spell. -/
theorem decode_eq_projection {words : List UInt32} {m : Module}
    (h : (decode words).result = .ok m) :
    ∃ body chunks,
      Header.logical words = m.header.toWords ++ body ∧
      Frame.Cut body chunks [] ∧
      (∀ chunk ∈ chunks, (Frame.ofChunk chunk).opcode ∈ handledCodes →
        (Frame.ofChunk chunk).spelled?.isSome) ∧
      m.Projects m.header (chunks.filterMap fun chunk => (Frame.ofChunk chunk).spelled?) := by
  obtain ⟨is, hprogram, hprojects⟩ := exists_projects_of_decode h
  obtain ⟨body, frames, hheader, hsplit, hread⟩ := program_eq_ok_iff.1 hprogram
  obtain ⟨chunks, hcut, rfl⟩ := Frame.exists_cut_of_split hsplit
  have his : is = chunks.filterMap fun chunk => (Frame.ofChunk chunk).spelled? := by
    rw [Frame.eq_filterMap_of_readAll hread, List.filterMap_map]
    rfl
  have hspelled := List.forall_mem_map.1 (Frame.isSome_spelled?_of_readAll hread)
  rw [his] at hprojects
  exact ⟨body, chunks, Header.logical_of_read hheader, hcut, hspelled, hprojects⟩

/-- Two entry points with a size each, an id with two types, and one with two names, three
decorations and two members. -/
def layeredWords : List UInt32 :=
  [0x07230203, 0x10000, 0, 7, 0,
   0x60010, 1, 17, 8, 4, 1,
   0x6000f, 0, 1, 0x6e69616d, 0, 6,
   0x40048, 2, 1, 2,
   0x30005, 2, 0x41,
   0x30047, 2, 2,
   0x40006, 2, 0, 0x78,
   0x10000,
   0x30016, 3, 16,
   0x30016, 3, 32,
   0x40015, 4, 32, 0,
   0x5002b, 4, 5, 9, 1,
   0x4002b, 4, 5, 7,
   0xa0019, 0, 3, 1, 0, 1, 0, 1, 1, 2,
   0x4001c, 1, 3, 5,
   0x4001e, 2, 3, 1,
   0x4003b, 2, 6, 2,
   0x40047, 2, 34, 3,
   0x30047, 2, 2,
   0x30005, 2, 0x42,
   0x5000f, 5, 2, 0x43, 6,
   0x60010, 2, 17, 2, 2, 2]

def layeredInstructions : List Instruction :=
  [.localSize 1 ⟨8, 4, 1⟩, .entryPoint ⟨.vertex, 1, "main", [6]⟩,
    .memberDecorate 2 1 ⟨.block, []⟩, .name 2 "A", .decorate 2 ⟨.block, []⟩,
    .memberName 2 0 "x", .declareType 3 (.float 16), .declareType 3 (.float 32),
    .declareType 4 (.int 32 false), .declareConstant 5 ⟨4, [9, 1]⟩, .declareConstant 5 ⟨4, [7]⟩,
    .declareType 0 (.image ⟨3, .twoD, false, true, false, true, .rgba32f, some .readWrite⟩),
    .declareType 1 (.array 3 5), .declareType 2 (.struct [3, 1]),
    .declareVariable 6 ⟨2, .uniform, []⟩, .decorate 2 ⟨.descriptorSet, [3]⟩,
    .decorate 2 ⟨.block, []⟩, .name 2 "B", .entryPoint ⟨.compute, 2, "C", [6]⟩,
    .localSize 2 ⟨2, 2, 2⟩]

def layeredModule : Module where
  header := ⟨0x10000, 0, 7, 0⟩
  ids := ⟨#[
    { type? := some (.image ⟨3, .twoD, false, true, false, true, .rgba32f, some .readWrite⟩) },
    { type? := some (.array 3 5), localSize? := some ⟨8, 4, 1⟩ },
    { name? := some "B"
      decorations := [⟨.block, []⟩, ⟨.descriptorSet, [3]⟩, ⟨.block, []⟩]
      members := [{ name? := some "x" }, { decorations := [⟨.block, []⟩] }]
      type? := some (.struct [3, 1])
      localSize? := some ⟨2, 2, 2⟩ },
    { type? := some (.float 32) },
    { type? := some (.int 32 false) },
    { const? := some ⟨4, [7]⟩ },
    { var? := some ⟨2, .uniform, []⟩ }]⟩
  entryPoint? := some ⟨.compute, 2, "C", [6]⟩

theorem decode_eq_projection_layered :
    (decode layeredWords).result = .ok layeredModule ∧
      layeredModule.Projects layeredModule.header layeredInstructions := by
  have hdecode : (decode layeredWords).result = .ok layeredModule := by decide +kernel
  obtain ⟨body, chunks, hlogical, hcut, -, hprojects⟩ := decode_eq_projection hdecode
  have hbody : body = layeredWords.drop 5 := (congrArg (List.drop 5) hlogical).symm
  have hframes : chunks.map Frame.ofChunk = (Frame.split Header.size body).1 := by
    rw [Frame.split_of_cut hcut trivial]
  have his : (chunks.map Frame.ofChunk).filterMap Frame.spelled? = layeredInstructions := by
    rw [hframes, hbody]
    decide +kernel
  rw [List.filterMap_map] at his
  exact ⟨hdecode, his ▸ hprojects⟩

end Module

end ShaderInterface
