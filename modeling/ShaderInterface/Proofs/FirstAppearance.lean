import Mathlib.Data.List.Induction
import Mathlib.Data.List.Nodup
import Mathlib.Data.List.Perm.Basic
import ShaderInterface.LatestBy

namespace ShaderInterface

variable {α κ : Type} [DecidableEq κ]

theorem eraseDups_concat (l : List κ) (k : κ) :
    (l ++ [k]).eraseDups = if k ∈ l then l.eraseDups else l.eraseDups ++ [k] := by
  rw [List.eraseDups_append]
  by_cases h : k ∈ l <;> simp [List.removeAll, List.eraseDups_cons, h]

theorem nodup_eraseDups (l : List κ) : l.eraseDups.Nodup := by
  induction l using List.reverseRecOn with
  | nil => exact .nil
  | append_singleton l k ih =>
    rw [eraseDups_concat]
    split
    · exact ih
    · next h => simpa [List.nodup_append] using ⟨ih, fun a ha hk => h (hk ▸ ha)⟩

/-- Without its repetitions a list is in the order in which its elements first appear. -/
theorem pairwise_idxOf_eraseDups (l : List κ) :
    l.eraseDups.Pairwise fun k k' => l.idxOf k < l.idxOf k' := by
  induction l using List.reverseRecOn with
  | nil => exact .nil
  | append_singleton l k ih =>
    have hidx : ∀ k' ∈ l, (l ++ [k]).idxOf k' = l.idxOf k' := fun k' h =>
      List.idxOf_append_of_mem h
    have hl : l.eraseDups.Pairwise fun a b => (l ++ [k]).idxOf a < (l ++ [k]).idxOf b := by
      refine ih.imp_of_mem fun {a b} ha hb h => ?_
      rwa [hidx a (List.mem_eraseDups.1 ha), hidx b (List.mem_eraseDups.1 hb)]
    rw [eraseDups_concat]
    split
    · exact hl
    · next hk =>
      refine List.pairwise_append.2 ⟨hl, List.pairwise_singleton _ _, fun a ha b hb => ?_⟩
      have hal := List.mem_eraseDups.1 ha
      rw [List.mem_singleton.1 hb, hidx a hal, List.idxOf_append_of_notMem hk]
      exact Nat.lt_of_lt_of_le (List.idxOf_lt_length_of_mem hal) (Nat.le_add_right _ _)

theorem flatMap_filter_perm {key : α → κ} {keys : List κ} (hkeys : keys.Nodup) {l : List α}
    (hl : ∀ a ∈ l, key a ∈ keys) : (keys.flatMap fun k => l.filter (key · == k)).Perm l := by
  induction keys generalizing l with
  | nil =>
    have hnil : l = [] := List.eq_nil_iff_forall_not_mem.2 fun a ha => nomatch hl a ha
    rw [hnil]
    exact .nil
  | cons k rest ih =>
    obtain ⟨hk, hrest⟩ := List.nodup_cons.1 hkeys
    have hothers : ∀ a ∈ l.filter (!key · == k), key a ∈ rest := by
      intro a ha
      obtain ⟨hal, hak⟩ := List.mem_filter.1 ha
      exact (List.mem_cons.1 (hl a hal)).resolve_left (by simpa using hak)
    -- What has a key of `rest` is not lost by leaving out what has the key `k`.
    have hsplit : (rest.flatMap fun k' => l.filter (key · == k')) =
        rest.flatMap fun k' => (l.filter (!key · == k)).filter (key · == k') := by
      refine List.flatMap_congr fun k' hk' => ?_
      rw [List.filter_filter]
      refine List.filter_congr fun a _ => ?_
      by_cases ha : key a = k'
      · have hne : k' ≠ k := fun h => hk (h ▸ hk')
        simp [ha, hne]
      · simp [ha]
    rw [List.flatMap_cons, hsplit]
    exact ((ih hrest hothers).append_left _).trans (List.filter_append_perm _ l)

theorem filter_mergeSort_eq {le : α → α → Bool} (trans : ∀ a b c, le a b → le b c → le a c)
    (total : ∀ a b, le a b || le b a) {p : α → Bool} (hp : ∀ a b, p a → p b → le a b)
    (l : List α) : (l.mergeSort le).filter p = l.filter p := by
  have hsorted : (l.filter p).Pairwise fun a b => le a b = true :=
    List.pairwise_of_forall_mem_list fun a ha b hb =>
      hp a b (List.mem_filter.1 ha).2 (List.mem_filter.1 hb).2
  have hsub : ((l.filter p).filter p).Sublist ((l.mergeSort le).filter p) :=
    (List.sublist_mergeSort trans total hsorted List.filter_sublist).filter p
  rw [List.filter_filter, List.filter_congr fun a _ => Bool.and_self (p a)] at hsub
  exact (hsub.eq_of_length ((List.mergeSort_perm l le).filter p).length_eq.symm).symm

/-- Sorted by a key, elements of ascending rank are in ascending rank at each key. -/
theorem pairwise_mergeSort_key {key : α → Int} {rank : α → Nat} {l : List α}
    (h : l.Pairwise fun a b => rank a < rank b) :
    (l.mergeSort fun a b => key a ≤ key b).Pairwise fun a b =>
      key a < key b ∨ key a = key b ∧ rank a < rank b := by
  have htrans : ∀ a b c : α, decide (key a ≤ key b) = true → decide (key b ≤ key c) = true →
      decide (key a ≤ key c) = true := by
    simp only [decide_eq_true_eq]
    omega
  have htotal : ∀ a b : α, (decide (key a ≤ key b) || decide (key b ≤ key a)) = true := by
    simp only [Bool.or_eq_true, decide_eq_true_eq]
    omega
  rw [List.pairwise_iff_forall_sublist]
  intro a b hab
  have hle : key a ≤ key b := of_decide_eq_true
    (List.pairwise_iff_forall_sublist.1 (List.pairwise_mergeSort htrans htotal l) hab)
  rcases Int.lt_or_eq_of_le hle with hlt | heq
  · exact .inl hlt
  · -- Sorting leaves the elements of one key in their order.
    have hsame : ∀ c d : α, (key c == key b) = true → (key d == key b) = true →
        decide (key c ≤ key d) = true := by
      simp only [beq_iff_eq, decide_eq_true_eq]
      omega
    have hsub := hab.filter fun c => key c == key b
    rw [filter_mergeSort_eq htrans htotal hsame] at hsub
    have hpair : [a, b].Sublist l := by
      simpa [heq] using hsub.trans List.filter_sublist
    exact .inr ⟨heq, List.pairwise_iff_forall_sublist.1 h hpair⟩

variable {key : α → κ} {l : List α}

theorem findRev?_key_eq_some_iff {k : κ} {a : α} :
    l.findRev? (key · == k) = some a ↔
      key a = k ∧ ∃ before after, l = before ++ a :: after ∧ ∀ b ∈ after, key b ≠ k := by
  rw [List.findRev?_eq_find?_reverse, List.find?_eq_some_iff_append]
  refine and_congr beq_iff_eq ⟨?_, ?_⟩
  · rintro ⟨after, before, hl, hafter⟩
    refine ⟨before.reverse, after.reverse, ?_, ?_⟩
    · simpa using congrArg List.reverse hl
    · simpa using hafter
  · rintro ⟨before, after, rfl, hafter⟩
    exact ⟨after.reverse, before.reverse, by simp, by simpa using hafter⟩

theorem mem_latestBy_iff {a : α} :
    a ∈ latestBy key l ↔
      ∃ before after, l = before ++ a :: after ∧ ∀ b ∈ after, key b ≠ key a := by
  simp only [latestBy, List.mem_filterMap, List.mem_eraseDups, findRev?_key_eq_some_iff]
  constructor
  · rintro ⟨k, -, rfl, hlast⟩
    exact hlast
  · rintro ⟨before, after, rfl, hafter⟩
    exact ⟨key a, by simp, rfl, before, after, rfl, hafter⟩

theorem map_latestBy : (latestBy key l).map key = (l.map key).eraseDups := by
  rw [latestBy, List.map_filterMap]
  have hfound : ∀ k ∈ (l.map key).eraseDups, (l.findRev? (key · == k)).map key = some k := by
    intro k hk
    cases ha : l.findRev? (key · == k) with
    | none =>
      rw [List.findRev?_eq_find?_reverse, List.find?_eq_none] at ha
      obtain ⟨a, hal, rfl⟩ := List.mem_map.1 (List.mem_eraseDups.1 hk)
      exact absurd (beq_self_eq_true _) (ha a (List.mem_reverse.2 hal))
    | some a => exact congrArg some (findRev?_key_eq_some_iff.1 ha).1
  rw [List.filterMap_congr hfound, List.filterMap_some]

theorem eraseDups_eq_self {l : List κ} (h : l.Nodup) : l.eraseDups = l := by
  induction l using List.reverseRecOn with
  | nil => rfl
  | append_singleton l k ih =>
    obtain ⟨hl, -, hk⟩ := List.nodup_append.1 h
    rw [eraseDups_concat, if_neg fun hmem => hk k hmem k (.head _) rfl, ih hl]

theorem latestBy_eq_self (h : (l.map key).Nodup) : latestBy key l = l := by
  rw [latestBy, eraseDups_eq_self h, List.filterMap_map]
  have hfound : ∀ a ∈ l, l.findRev? (key · == key a) = some a := by
    intro a ha
    obtain ⟨before, after, hsplit⟩ := List.append_of_mem ha
    refine findRev?_key_eq_some_iff.2 ⟨rfl, before, after, hsplit, fun b hb hkey => ?_⟩
    rw [hsplit, List.map_append, List.map_cons] at h
    have hnot := (List.nodup_cons.1 (List.nodup_append.1 h).2.1).1
    exact hnot (hkey ▸ List.mem_map_of_mem hb)
  exact (List.filterMap_congr hfound).trans List.filterMap_some

end ShaderInterface
