import Mathlib.Data.List.Basic
import ShaderInterface.Instruction.Frame

namespace ShaderInterface.Frame

/-- The words of an instruction, as its first word gives their number. -/
def count (head : UInt32) : Nat :=
  (head >>> 16).toNat

/-- A whole instruction: as many words as the first of them says. -/
def Whole : List UInt32 → Prop
  | [] => False
  | head :: operands => count head = operands.length + 1

instance : DecidablePred Whole
  | [] => inferInstanceAs (Decidable False)
  | head :: operands => inferInstanceAs (Decidable (count head = operands.length + 1))

/-- The words are whole instructions one after the other, and what is left. -/
structure Cut (words : List UInt32) (chunks : List (List UInt32)) (rest : List UInt32) : Prop where
  eq_append : words = chunks.flatten ++ rest
  whole : ∀ chunk ∈ chunks, Whole chunk

structure LongestCut (words : List UInt32) (chunks : List (List UInt32)) (rest : List UInt32) :
    Prop extends Cut words chunks rest where
  longest : ∀ chunks' rest', Cut words chunks' rest' → chunks' <+: chunks

/-- The first word claims none of the words, or more than there are. -/
def Stuck : List UInt32 → Prop
  | [] => True
  | head :: operands => count head = 0 ∨ operands.length + 1 < count head

def ofChunk : List UInt32 → Frame
  | [] => ⟨0, []⟩
  | head :: operands => ⟨head.toUInt16, operands⟩

def framingFault (index : Nat) (head : UInt32) : Fault :=
  if count head = 0 then .emptyInstruction index else .instructionOverrun index (count head)

def stuckFault? (index : Nat) (rest : List UInt32) : Option Fault :=
  rest.head?.map (framingFault index)

theorem category_framingFault (index : Nat) (head : UInt32) :
    (framingFault index head).category = .malformed := by
  by_cases h : count head = 0
  · rw [framingFault, if_pos h]
    rfl
  · rw [framingFault, if_neg h]
    rfl

theorem message_framingFault (index : Nat) (head : UInt32) :
    (framingFault index head).message = if count head = 0
      then s!"Instruction at word {index} has a word count of 0"
      else s!"Instruction at word {index} runs past the end of the module ({count head} words)" :=
    by
  by_cases h : count head = 0
  · rw [framingFault, if_pos h, if_pos h]
    rfl
  · rw [framingFault, if_neg h, if_neg h]
    rfl

theorem not_whole_append_of_stuck {rest chunk tail : List UInt32} (h : Stuck rest)
    (he : rest = chunk ++ tail) : ¬ Whole chunk := by
  intro hwhole
  subst he
  cases chunk with
  | nil => exact hwhole
  | cons head operands =>
    simp only [Whole] at hwhole
    simp only [List.cons_append, Stuck, List.length_append] at h
    omega

/-- The first word of an instruction decides where it ends. -/
theorem whole_append_cancel {chunk chunk' tail tail' : List UInt32} (h : Whole chunk)
    (h' : Whole chunk') (he : chunk ++ tail = chunk' ++ tail') : chunk = chunk' ∧ tail = tail' := by
  cases chunk with
  | nil => exact h.elim
  | cons head operands =>
    cases chunk' with
    | nil => exact h'.elim
    | cons head' operands' =>
      have hhead : head = head' := (List.cons.inj he).1
      subst hhead
      exact List.append_inj he (by simp only [Whole] at h h'; simp only [List.length_cons]; omega)

theorem Cut.longest_of_stuck {words rest : List UInt32} {chunks : List (List UInt32)}
    (h : Cut words chunks rest) (hstuck : Stuck rest) : LongestCut words chunks rest := by
  refine ⟨h, fun chunks' rest' h' => ?_⟩
  obtain ⟨he, hwhole⟩ := h
  obtain ⟨he', hwhole'⟩ := h'
  subst he
  induction chunks' generalizing chunks with
  | nil => exact List.nil_prefix
  | cons chunk' others' ih =>
    have hc' := hwhole' chunk' List.mem_cons_self
    rw [List.flatten_cons, List.append_assoc] at he'
    cases chunks with
    | nil => exact absurd hc' (not_whole_append_of_stuck hstuck he')
    | cons chunk others =>
      rw [List.flatten_cons, List.append_assoc] at he'
      -- Both cuts begin at the same word, which says where the first instruction ends.
      obtain ⟨rfl, htail⟩ := whole_append_cancel (hwhole chunk List.mem_cons_self) hc' he'
      apply (List.prefix_cons_inj chunk).2
      apply ih _ _ htail
      · exact fun c hc => hwhole c (List.mem_cons_of_mem _ hc)
      · exact fun c hc => hwhole' c (List.mem_cons_of_mem _ hc)

theorem Cut.cons {words rest chunk : List UInt32} {chunks : List (List UInt32)}
    (h : Cut words chunks rest) (hwhole : Whole chunk) :
    Cut (chunk ++ words) (chunk :: chunks) rest := by
  refine ⟨?_, List.forall_mem_cons.2 ⟨hwhole, h.whole⟩⟩
  rw [List.flatten_cons, List.append_assoc, ← h.eq_append]

theorem stuck_or_whole (words : List UInt32) :
    Stuck words ∨ ∃ chunk tail, Whole chunk ∧ words = chunk ++ tail := by
  cases words with
  | nil => exact .inl trivial
  | cons head operands =>
    by_cases hzero : count head = 0
    · exact .inl (.inl hzero)
    by_cases hlong : operands.length + 1 < count head
    · exact .inl (.inr hlong)
    -- Neither empty nor cut short: the count names words that are there.
    have hlen : (operands.take (count head - 1)).length = count head - 1 := by
      rw [List.length_take]
      omega
    refine .inr ⟨head :: operands.take (count head - 1), operands.drop (count head - 1), ?_, ?_⟩
    · show count head = (operands.take (count head - 1)).length + 1
      omega
    · rw [List.cons_append, List.take_append_drop]

theorem exists_cut (words : List UInt32) :
    ∃ chunks rest, Cut words chunks rest ∧ Stuck rest := by
  rcases stuck_or_whole words with hstuck | ⟨chunk, tail, hwhole, he⟩
  · exact ⟨[], words, ⟨rfl, List.forall_mem_nil _⟩, hstuck⟩
  · have hpos : chunk ≠ [] := fun hnil => by rwa [hnil] at hwhole
    have hlt : tail.length < words.length := by
      have hlen := List.length_pos_iff.2 hpos
      rw [he, List.length_append]
      omega
    obtain ⟨chunks, rest, hcut, hstuck⟩ := exists_cut tail
    exact ⟨chunk :: chunks, rest, he ▸ hcut.cons hwhole, hstuck⟩
termination_by words.length

theorem split_of_stuck {words : List UInt32} (h : Stuck words) (index : Nat) :
    split index words = ([], stuckFault? index words) := by
  cases words with
  | nil =>
    rw [split]
    rfl
  | cons head operands =>
    rw [split, stuckFault?, List.head?_cons, Option.map_some, framingFault]
    by_cases hzero : count head = 0
    · rw [if_pos hzero]
      exact if_pos hzero
    · have hshort : (operands.take (count head - 1)).length + 1 < count head := by
        have hlong := h.resolve_left hzero
        rw [List.length_take]
        omega
      rw [if_neg hzero]
      exact (if_neg hzero).trans (if_pos hshort)

theorem split_whole_append {chunk : List UInt32} (h : Whole chunk) (index : Nat)
    (tail : List UInt32) :
    split index (chunk ++ tail) =
      (ofChunk chunk :: (split (index + chunk.length) tail).1,
        (split (index + chunk.length) tail).2) := by
  cases chunk with
  | nil => exact h.elim
  | cons head operands =>
    have hcount : (head >>> 16).toNat = operands.length + 1 := h
    rw [List.cons_append, split]
    simp only [hcount, Nat.add_sub_cancel, List.take_left, List.drop_left]
    rw [if_neg (by omega), if_neg (by omega)]
    rfl

/-- The frames are those of the longest cut, and the fault is about the words behind it. -/
theorem split_of_cut {words rest : List UInt32} {chunks : List (List UInt32)}
    (h : Cut words chunks rest) (hstuck : Stuck rest) (index : Nat) :
    split index words =
      (chunks.map ofChunk, stuckFault? (index + chunks.flatten.length) rest) := by
  obtain ⟨he, hwhole⟩ := h
  subst he
  induction chunks generalizing index with
  | nil => exact split_of_stuck hstuck index
  | cons chunk others ih =>
    obtain ⟨hchunk, hothers⟩ := List.forall_mem_cons.1 hwhole
    rw [List.flatten_cons, List.append_assoc, split_whole_append hchunk, ih _ hothers,
      List.length_append, ← Nat.add_assoc]
    rfl

theorem exists_cut_of_split {words : List UInt32} {frames : List Frame} {index : Nat}
    (h : split index words = (frames, none)) :
    ∃ chunks, Cut words chunks [] ∧ frames = chunks.map ofChunk := by
  obtain ⟨chunks, rest, hcut, hstuck⟩ := exists_cut words
  rw [split_of_cut hcut hstuck] at h
  obtain ⟨hframes, hfault⟩ := Prod.mk.inj h
  have hrest : rest = [] := List.head?_eq_none_iff.1 (Option.map_eq_none_iff.1 hfault)
  exact ⟨chunks, hrest ▸ hcut, hframes.symm⟩

end ShaderInterface.Frame
