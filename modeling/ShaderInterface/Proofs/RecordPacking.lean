import Mathlib.Algebra.GroupWithZero.Nat
import Mathlib.Data.List.MinMax
import Mathlib.Data.List.Pairwise
import Mathlib.Order.Nat
import ShaderInterface.Interface.InputLayout
import ShaderInterface.Proofs.FirstAppearance

namespace ShaderInterface

namespace Field

def Covers (f : Field) (k : Nat) : Prop :=
  f.offset ≤ k ∧ k < f.stop

/-- No byte belongs to both; of an empty field none does, wherever it stands. -/
def Apart (f g : Field) : Prop :=
  ∀ k, ¬ (f.Covers k ∧ g.Covers k)

theorem apart_of_stop_le {f g : Field} (h : f.stop ≤ g.offset) : f.Apart g := by
  unfold Apart Covers
  omega

instance : Std.Symm Apart :=
  ⟨fun _ _ h k hk => h k hk.symm⟩

end Field

namespace RecordLayout

def extent (parts : List (String × Layout)) : Nat :=
  (parts.map (·.2.size)).sum

def kept (parts : List (String × Layout)) : List Field :=
  latestBy (·.name) (place 0 parts)

/-- The record has a field for each name: the last part of that name, behind all parts in front of
it. -/
structure Packs (parts : List (String × Layout)) (r : RecordLayout) : Prop where
  size_eq : r.size = extent parts
  nodup_names : (r.fields.map (·.name)).Nodup
  mem_names_iff : ∀ name, name ∈ r.fields.map (·.name) ↔ name ∈ parts.map (·.1)
  mem_fields_iff : ∀ f, f ∈ r.fields ↔ ∃ before after,
    parts = before ++ (f.name, f.layout) :: after ∧ f.name ∉ after.map (·.1) ∧
      f.offset = extent before
  sorted : r.fields.Pairwise fun f g => f.offset ≤ g.offset
  apart : r.fields.Pairwise Field.Apart
  fields_eq_of_nodup : (parts.map (·.1)).Nodup → r.fields = place 0 parts

/-- No part that stays lies further behind the start than a signed word can count. -/
def OffsetsFit (parts : List (String × Layout)) : Prop :=
  ∀ before part after, parts = before ++ part :: after → part.1 ∉ after.map (·.1) →
    extent before ≤ 2147483647

variable {parts before after : List (String × Layout)} {offset : Nat} {f : Field}

theorem extent_append (before after : List (String × Layout)) :
    extent (before ++ after) = extent before + extent after := by
  simp [extent]

theorem extent_cons (part : String × Layout) (rest : List (String × Layout)) :
    extent (part :: rest) = part.2.size + extent rest := by
  simp [extent]

theorem place_append (offset : Nat) (before after : List (String × Layout)) :
    place offset (before ++ after) =
      place offset before ++ place (offset + extent before) after := by
  induction before generalizing offset with
  | nil => rfl
  | cons part rest ih =>
    rw [List.cons_append, place, ih, place, extent_cons, Nat.add_assoc, List.cons_append]

theorem names_place (offset : Nat) (parts : List (String × Layout)) :
    (place offset parts).map (·.name) = parts.map (·.1) := by
  induction parts generalizing offset with
  | nil => rfl
  | cons part rest ih => rw [place, List.map_cons, ih, List.map_cons]

theorem bounds_of_mem_place (h : f ∈ place offset parts) :
    offset ≤ f.offset ∧ f.stop ≤ offset + extent parts := by
  induction parts generalizing offset with
  | nil => cases h
  | cons part rest ih =>
    rw [extent_cons]
    cases h with
    | head => exact ⟨Nat.le_refl _, by simp [Field.stop]⟩
    | tail _ h =>
      obtain ⟨hstart, hstop⟩ := ih h
      omega

theorem pairwise_place (offset : Nat) (parts : List (String × Layout)) :
    (place offset parts).Pairwise fun f g => f.stop ≤ g.offset := by
  induction parts generalizing offset with
  | nil => exact .nil
  | cons part rest ih => exact .cons (fun g hg => (bounds_of_mem_place hg).1) (ih _)

/-- A placed part stands behind the bytes of those in front of it. -/
theorem exists_of_place_eq_append {front back : List Field}
    (h : place offset parts = front ++ f :: back) :
    ∃ before after, parts = before ++ (f.name, f.layout) :: after ∧
      f.offset = offset + extent before ∧ back = place f.stop after := by
  induction front generalizing offset parts with
  | nil =>
    cases parts with
    | nil => cases h
    | cons part rest =>
      cases h
      exact ⟨[], rest, rfl, rfl, rfl⟩
  | cons first front ih =>
    cases parts with
    | nil => cases h
    | cons part rest =>
      obtain ⟨before, after, hrest, hoffset, hback⟩ := ih (List.cons.inj h).2
      refine ⟨part :: before, after, by rw [hrest, List.cons_append], ?_, hback⟩
      rw [hoffset, extent_cons, Nat.add_assoc]

theorem mem_kept_iff : f ∈ kept parts ↔ ∃ before after,
    parts = before ++ (f.name, f.layout) :: after ∧ f.name ∉ after.map (·.1) ∧
      f.offset = extent before := by
  rw [kept, mem_latestBy_iff]
  constructor
  · rintro ⟨front, back, hplace, hback⟩
    obtain ⟨before, after, hparts, hoffset, rfl⟩ := exists_of_place_eq_append hplace
    refine ⟨before, after, hparts, ?_, by rw [hoffset, Nat.zero_add]⟩
    rw [← names_place f.stop after, List.mem_map]
    rintro ⟨g, hg, hname⟩
    exact hback g hg hname
  · rintro ⟨before, after, rfl, hafter, hoffset⟩
    refine ⟨place 0 before, place f.stop after, ?_, fun g hg hname => hafter ?_⟩
    · rw [place_append, place, Nat.zero_add, ← hoffset]
      rfl
    · rw [← names_place f.stop after, ← hname]
      exact List.mem_map_of_mem hg

theorem names_kept (parts : List (String × Layout)) :
    (kept parts).map (·.name) = (parts.map (·.1)).eraseDups := by
  rw [kept, map_latestBy, names_place]

theorem mem_place_of_mem_kept (h : f ∈ kept parts) : f ∈ place 0 parts := by
  obtain ⟨front, back, hplace, -⟩ := mem_latestBy_iff.1 h
  rw [hplace]
  exact List.mem_append_right front (.head back)

theorem foldr_stop_kept (parts : List (String × Layout)) :
    ((kept parts).map Field.stop).foldr max 0 = extent parts := by
  apply Nat.le_antisymm
  · have hle : ∀ stop ∈ (kept parts).map Field.stop, stop ≤ extent parts := by
      refine List.forall_mem_map.2 fun f hf => ?_
      simpa using (bounds_of_mem_place (mem_place_of_mem_kept hf)).2
    exact List.max_le_of_forall_le _ _ hle
  · rcases List.eq_nil_or_concat' parts with rfl | ⟨init, last, rfl⟩
    · exact Nat.zero_le _
    · have hlast : ⟨last.1, last.2, extent init⟩ ∈ kept (init ++ [last]) :=
        mem_kept_iff.2 ⟨init, [], rfl, List.not_mem_nil, rfl⟩
      refine List.le_max_of_le' 0 (List.mem_map_of_mem hlast) ?_
      rw [Field.stop, extent_append]
      simp [extent]

theorem apart_of_mem_place {g : Field} (hf : f ∈ place offset parts) (hg : g ∈ place offset parts)
    (hne : f ≠ g) : f.Apart g := by
  have hall : (place offset parts).Pairwise Field.Apart :=
    (pairwise_place offset parts).imp Field.apart_of_stop_le
  exact hall.forall hf hg hne

theorem pairwise_mergeSort_offset (fields : List Field) :
    (fields.mergeSort fun f g => f.offset ≤ g.offset).Pairwise fun f g => f.offset ≤ g.offset := by
  have hsorted : (fields.mergeSort fun f g => f.offset ≤ g.offset).Pairwise
      fun f g => decide (f.offset ≤ g.offset) = true :=
    List.pairwise_mergeSort (by simp; omega) (by simp; omega) fields
  simpa using hsorted

theorem packs_kept (parts : List (String × Layout)) :
    Packs parts ⟨(kept parts).mergeSort fun f g => f.offset ≤ g.offset,
      ((kept parts).map Field.stop).foldr max 0⟩ := by
  have hperm := List.mergeSort_perm (kept parts) fun f g => decide (f.offset ≤ g.offset)
  have hnodup : (((kept parts).mergeSort fun f g => f.offset ≤ g.offset).map (·.name)).Nodup := by
    rw [(hperm.map (·.name)).nodup_iff, names_kept]
    exact nodup_eraseDups _
  constructor
  case size_eq => exact foldr_stop_kept parts
  case nodup_names => exact hnodup
  case mem_names_iff =>
    intro name
    rw [(hperm.map (·.name)).mem_iff, names_kept, List.mem_eraseDups]
  case mem_fields_iff =>
    intro f
    rw [hperm.mem_iff, mem_kept_iff]
  case sorted => exact pairwise_mergeSort_offset _
  case apart =>
    -- By offset an empty field may come behind a full one that begins with it, so the order of the
    -- parts is asked instead.
    refine (List.pairwise_map.1 hnodup).imp_of_mem fun {f g} hf hg hne => ?_
    have hf' := mem_place_of_mem_kept (hperm.mem_iff.1 hf)
    have hg' := mem_place_of_mem_kept (hperm.mem_iff.1 hg)
    exact apart_of_mem_place hf' hg' fun he => hne (he ▸ rfl)
  case fields_eq_of_nodup =>
    intro h
    have hkept : kept parts = place 0 parts := latestBy_eq_self (by rwa [names_place])
    have hplaced : (place 0 parts).Pairwise fun f g => decide (f.offset ≤ g.offset) = true := by
      refine (pairwise_place 0 parts).imp fun {f g} hstop => ?_
      exact decide_eq_true (Nat.le_trans (Nat.le_add_right _ _) hstop)
    rw [hkept, List.mergeSort_of_pairwise hplaced]

/-- The parts are read as the columns of a layout. -/
def Columns (names : List String) : Prop :=
  "names" ∈ names ∧ "formats" ∈ names

instance (names : List String) : Decidable (Columns names) :=
  inferInstanceAs (Decidable (_ ∧ _))

/-- What kind of fault it is depends on which of the columns is looked at first. -/
def columnCategory (names : List String) : Fault.Category :=
  if "offsets" ∈ names ∧ "aligned" ∉ names then .layoutForm else .layout

theorem columnFault?_of_not_columns {names : List String} (h : ¬ Columns names) :
    columnFault? names = none := by
  apply if_neg
  simpa [Columns] using h

theorem exists_columnFault? {names : List String} (h : Columns names) :
    ∃ fault, columnFault? names = some fault ∧ fault.category = columnCategory names := by
  have hboth : (names.contains "names" && names.contains "formats") = true := by
    simpa [Columns] using h
  rw [columnFault?, if_pos hboth, columnCategory]
  by_cases haligned : "aligned" ∈ names
  · exact ⟨.alignedNotAFlag, by simp [haligned], by simp [haligned, Fault.category]⟩
  · by_cases hoffsets : "offsets" ∈ names
    · exact ⟨.offsetsNotNumbers, by simp [haligned, hoffsets], by
        simp [haligned, hoffsets, Fault.category]⟩
    · exact ⟨.namesNotTexts, by simp [haligned, hoffsets], by simp [hoffsets, Fault.category]⟩

theorem pack_eq (parts : List (String × Layout)) : pack parts =
    match columnFault? ((kept parts).map (·.name)) with
    | some fault => .error fault
    | none =>
      if (kept parts).any (maxOffset < ·.offset) then .error .offsetTooLarge
      else .ok ⟨(kept parts).mergeSort fun f g => f.offset ≤ g.offset,
        ((kept parts).map Field.stop).foldr max 0⟩ :=
  rfl

theorem mem_names_kept_iff {name : String} :
    name ∈ (kept parts).map (·.name) ↔ name ∈ parts.map (·.1) := by
  rw [names_kept, List.mem_eraseDups]

theorem columns_kept_iff : Columns ((kept parts).map (·.name)) ↔ Columns (parts.map (·.1)) := by
  simp only [Columns, mem_names_kept_iff]

theorem offsetsFit_iff : OffsetsFit parts ↔ ∀ f ∈ kept parts, f.offset ≤ maxOffset := by
  constructor
  · intro h f hf
    obtain ⟨before, after, hparts, hafter, hoffset⟩ := mem_kept_iff.1 hf
    rw [hoffset]
    exact h before _ after hparts hafter
  · intro h before part after hparts hafter
    exact h ⟨part.1, part.2, extent before⟩ (mem_kept_iff.2 ⟨before, after, hparts, hafter, rfl⟩)

theorem pack_of_columns (h : Columns (parts.map (·.1))) :
    ∃ fault, pack parts = .error fault ∧
      fault.category = columnCategory (parts.map (·.1)) := by
  obtain ⟨fault, hfault, hcategory⟩ := exists_columnFault? (columns_kept_iff.2 h)
  refine ⟨fault, by rw [pack_eq, hfault], ?_⟩
  rw [hcategory]
  simp only [columnCategory, mem_names_kept_iff]

theorem pack_of_not_offsetsFit (h : ¬ Columns (parts.map (·.1))) (hfit : ¬ OffsetsFit parts) :
    pack parts = .error .offsetTooLarge := by
  have hany : (kept parts).any (maxOffset < ·.offset) = true := by
    rw [offsetsFit_iff] at hfit
    simpa using hfit
  rw [pack_eq, columnFault?_of_not_columns (mt columns_kept_iff.1 h)]
  exact if_pos hany

theorem pack_of_offsetsFit (h : ¬ Columns (parts.map (·.1))) (hfit : OffsetsFit parts) :
    ∃ r, pack parts = .ok r ∧ Packs parts r := by
  have hnone : ¬ (kept parts).any (maxOffset < ·.offset) = true := by
    rw [offsetsFit_iff] at hfit
    simpa using hfit
  refine ⟨_, ?_, packs_kept parts⟩
  rw [pack_eq, columnFault?_of_not_columns (mt columns_kept_iff.1 h)]
  exact if_neg hnone

end RecordLayout

end ShaderInterface
