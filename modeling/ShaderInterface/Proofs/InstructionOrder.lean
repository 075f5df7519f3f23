import Mathlib.Data.List.Nodup
import ShaderInterface.Proofs.ReferenceClosure
import ShaderInterface.Proofs.UnhandledInstructions

namespace ShaderInterface

inductive Topic
  | entryPoint
  | localSize (function : UInt32)
  | name (id : UInt32)
  | decorations (id : UInt32)
  | type (id : UInt32)
  | variable (id : UInt32)
  | constant (id : UInt32)
  | memberName (id : UInt32) (member : Nat)
  | memberDecorations (id : UInt32) (member : Nat)
  deriving DecidableEq

namespace Instruction

/-- What the instruction is about. Other execution modes are read and leave no trace. -/
@[simp] def topic? : Instruction → Option Topic
  | entryPoint _ => some .entryPoint
  | localSize function _ => some (.localSize function)
  | otherMode _ _ => none
  | name target _ => some (.name target)
  | memberName target member _ => some (.memberName target member.toNat)
  | decorate target _ => some (.decorations target)
  | memberDecorate target member _ => some (.memberDecorations target member.toNat)
  | declareType target _ => some (.type target)
  | declareVariable target _ => some (.variable target)
  | declareConstant target _ => some (.constant target)

def isAbout (topic : Topic) (i : Instruction) : Bool :=
  i.topic? == some topic

/-- The same instructions, and those about one thing in the same order. -/
structure Reordered (is is' : List Instruction) : Prop where
  perm : is.Perm is'
  filter_eq : ∀ topic, is.filter (isAbout topic) = is'.filter (isAbout topic)

variable {is is' : List Instruction}

theorem Reordered.filterMap_eq {α : Type} (h : Reordered is is') {ask : Instruction → Option α}
    (topic : Topic) (hask : ∀ i, i.topic? ≠ some topic → ask i = none) :
    is.filterMap ask = is'.filterMap ask := by
  have hfilter : ∀ l : List Instruction, (l.filter (isAbout topic)).filterMap ask =
      l.filterMap ask := by
    intro l
    rw [List.filterMap_filter]
    refine congrArg (List.filterMap · l) (funext fun i => ?_)
    by_cases hi : i.topic? = some topic
    · exact if_pos (beq_iff_eq.2 hi)
    · rw [hask i hi, ite_self]
  rw [← hfilter is, h.filter_eq, hfilter]

theorem Reordered.last_eq {α : Type} (h : Reordered is is') {ask : Instruction → Option α}
    (topic : Topic) (hask : ∀ i, i.topic? ≠ some topic → ask i = none) :
    last ask is = last ask is' := by
  rw [last, last, h.filterMap_eq topic hask]

end Instruction

open Instruction

variable {is is' : List Instruction}

theorem Member.project_eq_of_reordered (h : Reordered is is') (k : UInt32) (index : Nat) :
    project is k index = project is' k index := by
  rw [project, project]
  congr 1
  · exact h.last_eq (.memberName k index) fun i hi => by cases i <;> simp_all
  · exact h.filterMap_eq (.memberDecorations k index) fun i hi => by cases i <;> simp_all

namespace Entry

theorem memberCount_eq_of_perm (h : is.Perm is') (k : UInt32) :
    memberCount is k = memberCount is' k := by
  apply eq_of_forall_ge_iff
  intro n
  simp only [memberCount_le_iff, h.mem_iff]

theorem project_eq_of_reordered (h : Reordered is is') (k : UInt32) :
    project is k = project is' k := by
  rw [project, project, memberCount_eq_of_perm h.perm,
    funext (Member.project_eq_of_reordered h k)]
  congr 1
  · exact h.last_eq (.name k) fun i hi => by cases i <;> simp_all
  · exact h.filterMap_eq (.decorations k) fun i hi => by cases i <;> simp_all
  · exact h.last_eq (.type k) fun i hi => by cases i <;> simp_all
  · exact h.last_eq (.variable k) fun i hi => by cases i <;> simp_all
  · exact h.last_eq (.constant k) fun i hi => by cases i <;> simp_all
  · exact h.last_eq (.localSize k) fun i hi => by cases i <;> simp_all

end Entry

namespace Frame

def told? (bound : Nat) (f : Frame) : Option Instruction :=
  (f.read bound).toOption.join

theorem told?_of_read {bound : Nat} {f : Frame} {i? : Option Instruction}
    (h : f.read bound = .ok i?) : told? bound f = i? := by
  rw [told?, h]
  rfl

theorem readAll_eq_ok_iff {bound : Nat} {frames : List Frame} {is : List Instruction} :
    readAll bound frames = .ok is ↔
      (∀ f ∈ frames, ∃ i?, f.read bound = .ok i?) ∧ frames.filterMap (told? bound) = is := by
  induction frames generalizing is with
  | nil => simp [readAll]
  | cons f rest ih =>
    constructor
    · intro h
      obtain ⟨i?, others, hread, hothers, rfl⟩ := exists_of_readAll_cons h
      obtain ⟨hrest, htold⟩ := ih.1 hothers
      refine ⟨List.forall_mem_cons.2 ⟨⟨i?, hread⟩, hrest⟩, ?_⟩
      rw [List.filterMap_cons, told?_of_read hread, htold]
      cases i? <;> rfl
    · rintro ⟨hall, htold⟩
      obtain ⟨⟨i?, hread⟩, hrest⟩ := List.forall_mem_cons.1 hall
      rw [readAll, hread, ← htold, List.filterMap_cons, told?_of_read hread]
      dsimp only
      rw [ih.2 ⟨hrest, rfl⟩]
      cases i? <;> rfl

end Frame

namespace Module

open ShaderInterface.Frame

theorem build_eq_of_reordered (h : Header) (hre : Reordered is is') : build h is = build h is' := by
  have hheader : (build h is).header = (build h is').header := by
    rw [build_header, build_header]
  have hids : (build h is).ids = (build h is').ids := by
    apply IdTable.ext_get?
    · rw [size_ids_build, size_ids_build]
    · intro n hn
      rw [size_ids_build] at hn
      rw [get?_build_of_lt hn, get?_build_of_lt hn, Entry.project_eq_of_reordered hre]
  have hpoint : (build h is).entryPoint? = (build h is').entryPoint? := by
    rw [entryPoint?_build, entryPoint?_build]
    exact hre.last_eq .entryPoint fun i hi => by cases i <;> simp_all
  calc build h is
      = ⟨(build h is).header, (build h is).ids, (build h is).entryPoint?⟩ := rfl
    _ = ⟨(build h is').header, (build h is').ids, (build h is').entryPoint?⟩ := by
        rw [hheader, hids, hpoint]
    _ = build h is' := rfl

def topicOf? (bound : Nat) (chunk : List UInt32) : Option Topic :=
  (told? bound (ofChunk chunk)).bind topic?

def writes (bound : Nat) (topic : Topic) (chunk : List UInt32) : Bool :=
  topicOf? bound chunk == some topic

/-- The same instructions, and those that write one thing in the same order. -/
structure SameWrites (bound : Nat) (chunks chunks' : List (List UInt32)) : Prop where
  perm : chunks.Perm chunks'
  filter_eq : ∀ topic, chunks.filter (writes bound topic) = chunks'.filter (writes bound topic)

variable {words words' : List UInt32} {h : Header} {bound : Nat}
  {chunks chunks' : List (List UInt32)}

theorem filter_told (topic : Topic) (chunks : List (List UInt32)) :
    ((chunks.map ofChunk).filterMap (told? bound)).filter (isAbout topic) =
      (chunks.filter (writes bound topic)).filterMap fun chunk => told? bound (ofChunk chunk) := by
  rw [List.filterMap_map, List.filter_filterMap, List.filterMap_filter]
  refine congrArg (List.filterMap · chunks) (funext fun chunk => ?_)
  rw [writes, topicOf?, Function.comp_apply]
  cases told? bound (ofChunk chunk) <;> rfl

theorem SameWrites.reordered (hs : SameWrites bound chunks chunks') :
    Reordered ((chunks.map ofChunk).filterMap (told? bound))
      ((chunks'.map ofChunk).filterMap (told? bound)) where
  perm := (hs.perm.map ofChunk).filterMap (told? bound)
  filter_eq topic := by rw [filter_told, hs.filter_eq, filter_told]

theorem Framed.result_decode_eq_ok_iff (hw : Framed words h chunks) {m : Module} :
    (decode words).result = .ok m ↔
      (∀ chunk ∈ chunks, ∃ i?, (ofChunk chunk).read h.bound.toNat = .ok i?) ∧
      build h ((chunks.map ofChunk).filterMap (told? h.bound.toNat)) = m := by
  rw [result_decode_of_read hw.read_eq, hw.split_eq, result_foldlM_absorb]
  constructor
  · intro hm
    cases hread : readAll h.bound.toNat (chunks.map ofChunk) with
    | error fault =>
      rw [hread] at hm
      cases hm
    | ok is =>
      rw [hread] at hm
      obtain ⟨hall, htold⟩ := readAll_eq_ok_iff.1 hread
      rw [htold]
      exact ⟨fun chunk hchunk => hall _ (List.mem_map_of_mem hchunk), Except.ok.inj hm⟩
  · rintro ⟨hall, hbuild⟩
    have hframes : ∀ f ∈ chunks.map ofChunk, ∃ i?, f.read h.bound.toNat = .ok i? := by
      intro f hf
      obtain ⟨chunk, hchunk, rfl⟩ := List.mem_map.1 hf
      exact hall chunk hchunk
    rw [readAll_eq_ok_iff.2 ⟨hframes, rfl⟩]
    exact congrArg Except.ok hbuild

/-- One is accepted where the other is, with the same module, and then the same is found in it. -/
structure SameOutcome (words words' : List UInt32) : Prop where
  decode_iff : ∀ m, (decode words).result = .ok m ↔ (decode words').result = .ok m
  reflect_eq : ∀ m, (decode words).result = .ok m →
    ∀ (order order' : String) (data data' : ModuleData), data.load order = .ok words →
      data'.load order' = .ok words' → ∀ limit : Int,
      (ShaderInterface.reflect order limit data).result =
        (ShaderInterface.reflect order' limit data').result

theorem sameOutcome_of_sameWrites (hw : Framed words h chunks) (hw' : Framed words' h chunks')
    (hs : SameWrites h.bound.toNat chunks chunks') : SameOutcome words words' := by
  have hiff : ∀ m, (decode words).result = .ok m ↔ (decode words').result = .ok m := by
    intro m
    rw [hw.result_decode_eq_ok_iff, hw'.result_decode_eq_ok_iff,
      build_eq_of_reordered h hs.reordered]
    simp only [hs.perm.mem_iff]
  refine ⟨hiff, ?_⟩
  intro m hm order order' data data' hload hload' limit
  rw [result_reflect_of_load hload, result_reflect_of_load hload', hm, (hiff m).1 hm]

theorem sameWrites_of_nodup (hperm : chunks.Perm chunks')
    (hnodup : (chunks.filterMap (topicOf? bound)).Nodup) : SameWrites bound chunks chunks' where
  perm := hperm
  filter_eq topic := by
    have hlen : (chunks.filter (writes bound topic)).length ≤ 1 := by
      have hcount := List.nodup_iff_count_le_one.1 hnodup topic
      rwa [List.count_filterMap, List.countP_eq_length_filter] at hcount
    have hfilter := hperm.filter (writes bound topic)
    match hlist : chunks.filter (writes bound topic), hlen with
    | [], _ =>
      rw [hlist] at hfilter
      exact hfilter.nil_eq
    | [chunk], _ =>
      rw [hlist] at hfilter
      exact hfilter.singleton_eq

theorem sameWrites_of_move {chunk : List UInt32} {middle : List (List UInt32)}
    (hmiddle : ∀ topic, writes bound topic chunk → ∀ other ∈ middle, ¬ writes bound topic other)
    (before after : List (List UInt32)) :
    SameWrites bound (before ++ chunk :: (middle ++ after))
      (before ++ (middle ++ chunk :: after)) where
  perm := List.perm_middle.symm.append_left before
  filter_eq topic := by
    rw [List.filter_append, List.filter_append]
    congr 1
    cases hchunk : writes bound topic chunk with
    | false => simp [hchunk]
    | true =>
      have hnone : middle.filter (writes bound topic) = [] :=
        List.filter_eq_nil_iff.2 (hmiddle topic hchunk)
      simp [hchunk, hnone]

/-- Words that keep the order of the instructions about each thing have one outcome. -/
theorem instruction_order_irrelevant (h : Header) :
    (∀ (words words' : List UInt32) (chunks chunks' : List (List UInt32)),
      Framed words h chunks → Framed words' h chunks' →
      SameWrites h.bound.toNat chunks chunks' → SameOutcome words words') ∧
    ∀ (words words' chunk : List UInt32) (before middle after : List (List UInt32)),
      Framed words h (before ++ chunk :: (middle ++ after)) →
      Framed words' h (before ++ (middle ++ chunk :: after)) →
      (∀ topic, writes h.bound.toNat topic chunk → ∀ other ∈ middle,
        ¬ writes h.bound.toNat topic other) →
      SameOutcome words words' := by
  refine ⟨fun words words' chunks chunks' hw hw' hs => sameOutcome_of_sameWrites hw hw' hs, ?_⟩
  intro words words' chunk before middle after hw hw' hmiddle
  exact sameOutcome_of_sameWrites hw hw' (sameWrites_of_move hmiddle before after)

def orderedChunks : List (List UInt32) :=
  [[0x4000f, 5, 1, 0x43], [0x60010, 1, 17, 8, 4, 1], [0x20013, 2], [0x40020, 3, 1, 2],
    [0x30047, 3, 2]]

/-- The same with the decoration in front of its type and of the type that this refers to. -/
def movedChunks : List (List UInt32) :=
  [[0x4000f, 5, 1, 0x43], [0x60010, 1, 17, 8, 4, 1], [0x30047, 3, 2], [0x20013, 2],
    [0x40020, 3, 1, 2]]

def orderedModule : Module where
  header := sparseHeader
  ids := ⟨#[{}, { localSize? := some ⟨8, 4, 1⟩ }, { type? := some .void },
    { type? := some (.pointer .input 2), decorations := [⟨.block, []⟩] }, {}]⟩
  entryPoint? := some ⟨.compute, 1, "C", []⟩

theorem instruction_order_irrelevant_reversed :
    Framed (sparseHeader.toWords ++ orderedChunks.flatten) sparseHeader orderedChunks ∧
    Framed (sparseHeader.toWords ++ orderedChunks.reverse.flatten) sparseHeader
      orderedChunks.reverse ∧
    Framed (sparseHeader.toWords ++ movedChunks.flatten) sparseHeader movedChunks ∧
    SameWrites sparseHeader.bound.toNat orderedChunks orderedChunks.reverse ∧
    (decode (sparseHeader.toWords ++ orderedChunks.flatten)).result = .ok orderedModule ∧
    (decode (sparseHeader.toWords ++ orderedChunks.reverse.flatten)).result = .ok orderedModule ∧
    (decode (sparseHeader.toWords ++ movedChunks.flatten)).result = .ok orderedModule := by
  have hordered : Framed (sparseHeader.toWords ++ orderedChunks.flatten) sparseHeader
      orderedChunks := ⟨Header.result_read_toWords _ _, by decide⟩
  have hreversed : Framed (sparseHeader.toWords ++ orderedChunks.reverse.flatten) sparseHeader
      orderedChunks.reverse := ⟨Header.result_read_toWords _ _, by decide⟩
  have hmoved : Framed (sparseHeader.toWords ++ movedChunks.flatten) sparseHeader
      movedChunks := ⟨Header.result_read_toWords _ _, by decide⟩
  have hsame : SameWrites sparseHeader.bound.toNat orderedChunks orderedChunks.reverse :=
    sameWrites_of_nodup orderedChunks.reverse_perm.symm (by decide +kernel)
  have hdecode : (decode (sparseHeader.toWords ++ orderedChunks.flatten)).result =
      .ok orderedModule := by decide +kernel
  have hdecoration : topicOf? sparseHeader.bound.toNat [0x30047, 3, 2] =
      some (.decorations 3) := by decide +kernel
  have htypes : ∀ other ∈ [[0x20013, 2], [0x40020, 3, 1, 2]],
      ¬ writes sparseHeader.bound.toNat (.decorations 3) other := by decide +kernel
  obtain ⟨hpermuted, hpassed⟩ := instruction_order_irrelevant sparseHeader
  have hreverse := hpermuted _ _ _ _ hordered hreversed hsame
  have hmove := hpassed _ _ [0x30047, 3, 2] (movedChunks.take 2) (movedChunks.drop 3) []
    hmoved hordered (by
      intro topic hwrites
      rw [writes, hdecoration, beq_iff_eq] at hwrites
      cases hwrites
      exact htypes)
  exact ⟨hordered, hreversed, hmoved, hsame, hdecode, (hreverse.decode_iff _).1 hdecode,
    (hmove.decode_iff _).2 hdecode⟩

end Module

end ShaderInterface
