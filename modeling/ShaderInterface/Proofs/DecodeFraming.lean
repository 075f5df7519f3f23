import ShaderInterface.Proofs.Frames
import ShaderInterface.Proofs.Framing
import ShaderInterface.Proofs.HeaderOrder
import ShaderInterface.Proofs.Program

namespace ShaderInterface.Module

open ShaderInterface.Frame

/-- Whether the number in the low half of the first word is that of an instruction that is read. -/
def handled : List UInt32 → Bool
  | [] => false
  | head :: _ => Instruction.handledCodes.contains head.toUInt16

/-- What is done for one instruction, on its own words and none behind them. -/
def handle (bound : Nat) (m : Module) (chunk : List UInt32) : Traced Module := do
  let cursor ← Cursor.start bound chunk
  match (Numbered.ofCode? cursor.opcode.toNat).bind Instruction.reading? with
  | none => return m
  | some reading =>
    let i ← reading.run' cursor
    Traced.report (m.notices i)
    return m.apply i

def runChunks (h : Header) (chunks : List (List UInt32)) : Traced Module :=
  (chunks.filter handled).foldlM (handle h.bound.toNat) (blank h)

/-- The chunks in front are read and this one is refused, whatever has been gathered. -/
def FirstFault (bound : Nat) (chunks : List (List UInt32)) (fault : Fault) : Prop :=
  ∃ before chunk after, chunks = before ++ chunk :: after ∧
    (∀ c ∈ before, ∀ m, ∃ m', (handle bound m c).result = .ok m') ∧
    ∀ m, (handle bound m chunk).result = .error fault

theorem isRead_ofChunk {chunk : List UInt32} (h : Whole chunk) :
    isRead (ofChunk chunk) = handled chunk := by
  cases chunk with
  | nil => exact h.elim
  | cons head operands =>
    rw [Bool.eq_iff_iff, isRead, reading?_isSome_iff, handled, List.contains_iff_mem]
    rfl

theorem countP_isRead_map_ofChunk {chunks : List (List UInt32)}
    (h : ∀ chunk ∈ chunks, Whole chunk) :
    (chunks.map ofChunk).countP isRead = chunks.countP handled := by
  rw [List.countP_map]
  exact List.countP_congr fun c hc => by rw [Function.comp_apply, isRead_ofChunk (h c hc)]

theorem countP_not_isRead_map_ofChunk {chunks : List (List UInt32)}
    (h : ∀ chunk ∈ chunks, Whole chunk) :
    (chunks.map ofChunk).countP (!isRead ·) = chunks.countP (¬ handled ·) := by
  rw [List.countP_map]
  exact List.countP_congr fun c hc => by simp [isRead_ofChunk (h c hc)]

theorem absorb_ofChunk {chunk : List UInt32} (h : Whole chunk) (bound : Nat) (m : Module) :
    absorb bound m (ofChunk chunk) = handle bound m chunk := by
  cases chunk with
  | nil => exact h.elim
  | cons head operands =>
    have hstart : (liftM (Cursor.start bound (head :: operands)) : Traced Cursor) =
        pure ⟨head.toUInt16, bound, 1, operands⟩ := rfl
    have hreading : (ofChunk (head :: operands)).reading? =
        (Numbered.ofCode? head.toUInt16.toNat).bind Instruction.reading? := rfl
    rw [absorb, instruction?, handle, hstart, pure_bind, hreading]
    cases (Numbered.ofCode? head.toUInt16.toNat).bind Instruction.reading? with
    | none => simp only [pure_bind]
    | some reading =>
      simp only [bind_assoc, pure_bind]
      rfl

theorem absorb_of_not_isRead {f : Frame} (h : isRead f = false) (bound : Nat) (m : Module) :
    absorb bound m f = pure m := by
  have hnone : f.reading? = none := by
    rwa [← Option.not_isSome_iff_eq_none, Bool.not_eq_true]
  simp only [absorb, instruction?, hnone, pure_bind]

theorem foldlM_absorb_ofChunk {chunks : List (List UInt32)} (h : ∀ chunk ∈ chunks, Whole chunk)
    (bound : Nat) (m : Module) :
    (chunks.map ofChunk).foldlM (absorb bound) m =
      (chunks.filter handled).foldlM (handle bound) m := by
  induction chunks generalizing m with
  | nil => rfl
  | cons chunk rest ih =>
    have hchunk := h chunk List.mem_cons_self
    have ih := ih fun c hc => h c (List.mem_cons_of_mem _ hc)
    rw [List.map_cons, List.foldlM_cons]
    cases hh : handled chunk with
    | false =>
      rw [absorb_of_not_isRead ((isRead_ofChunk hchunk).trans hh), pure_bind, ih,
        List.filter_cons_of_neg (by rw [hh]; exact Bool.false_ne_true)]
    | true =>
      rw [absorb_ofChunk hchunk, List.filter_cons_of_pos hh, List.foldlM_cons]
      exact congrArg _ (funext ih)

theorem result_handle {chunk : List UInt32} (h : Whole chunk) (bound : Nat) (m : Module) :
    (handle bound m chunk).result =
      ((ofChunk chunk).read bound).map fun i? => i?.toList.foldl apply m := by
  rw [← absorb_ofChunk h, result_absorb]

theorem firstFault_cons_of_error {bound : Nat} {first : List UInt32} {fault : Fault}
    (h : ∀ m, (handle bound m first).result = .error fault) (rest : List (List UInt32))
    (fault' : Fault) : FirstFault bound (first :: rest) fault' ↔ fault = fault' := by
  constructor
  · intro ⟨before, chunk, after, he, hbefore, hfault⟩
    cases before with
    | nil =>
      rw [← (List.cons.inj he).1] at hfault
      exact Except.error.inj ((h (blank ⟨0, 0, 0, 0⟩)).symm.trans (hfault _))
    | cons c others =>
      obtain ⟨m', hok⟩ := hbefore c List.mem_cons_self (blank ⟨0, 0, 0, 0⟩)
      rw [← (List.cons.inj he).1, h] at hok
      cases hok
  · intro he
    exact ⟨[], first, rest, rfl, List.forall_mem_nil _, he ▸ h⟩

theorem firstFault_cons_of_ok {bound : Nat} {first : List UInt32}
    (h : ∀ m, ∃ m', (handle bound m first).result = .ok m') (rest : List (List UInt32))
    (fault : Fault) : FirstFault bound (first :: rest) fault ↔ FirstFault bound rest fault := by
  constructor
  · intro ⟨before, chunk, after, he, hbefore, hfault⟩
    cases before with
    | nil =>
      obtain ⟨m', hok⟩ := h (blank ⟨0, 0, 0, 0⟩)
      rw [(List.cons.inj he).1, hfault] at hok
      cases hok
    | cons c others =>
      have hothers := (List.forall_mem_cons.1 hbefore).2
      exact ⟨others, chunk, after, (List.cons.inj he).2, hothers, hfault⟩
  · intro ⟨before, chunk, after, he, hbefore, hfault⟩
    exact ⟨first :: before, chunk, after, congrArg (first :: ·) he,
      List.forall_mem_cons.2 ⟨h, hbefore⟩, hfault⟩

/-- A run fails with the first fault of its handlers, which is the same whatever has been
gathered. -/
theorem foldlM_handle_eq_error_iff {chunks : List (List UInt32)}
    (h : ∀ chunk ∈ chunks, Whole chunk) (bound : Nat) (m : Module) (fault : Fault) :
    (chunks.foldlM (handle bound) m).result = .error fault ↔ FirstFault bound chunks fault := by
  induction chunks generalizing m with
  | nil =>
    constructor
    · intro he
      cases he
    · intro ⟨before, chunk, after, he, _⟩
      exact absurd he (List.append_ne_nil_of_right_ne_nil before (List.cons_ne_nil _ _)).symm
  | cons first rest ih =>
    obtain ⟨hwhole, hrest⟩ := List.forall_mem_cons.1 h
    -- Whether a handler refuses is decided by its words alone.
    have hfirst := result_handle hwhole bound
    rw [List.foldlM_cons, Traced.result_bind, hfirst]
    cases hread : (ofChunk first).read bound with
    | error fault' =>
      rw [hread] at hfirst
      rw [firstFault_cons_of_error hfirst]
      exact ⟨Except.error.inj, congrArg Except.error⟩
    | ok i? =>
      rw [hread] at hfirst
      rw [firstFault_cons_of_ok fun m => ⟨_, hfirst m⟩]
      exact ih hrest _

theorem runChunks_eq_error_iff {h : Header} {chunks : List (List UInt32)}
    (hwhole : ∀ chunk ∈ chunks, Whole chunk) (fault : Fault) :
    (runChunks h chunks).result = .error fault ↔
      FirstFault h.bound.toNat (chunks.filter handled) fault :=
  foldlM_handle_eq_error_iff (fun c hc => hwhole c (List.mem_filter.1 hc).1) _ _ fault

theorem log_decode_of_whole {words body : List UInt32} {h : Header} {frames : List Frame}
    {m : Module} (hread : (Header.read words).result = .ok (h, body))
    (hsplit : split Header.size body = (frames, none))
    (hrun : (frames.foldlM (absorb h.bound.toNat) (blank h)).result = .ok m) :
    (decode words).log = (Header.read words).log ++
      (frames.foldlM (absorb h.bound.toNat) (blank h)).log ++
      .instructionsRead (frames.countP isRead) (frames.countP (!isRead ·)) ::
        if m.entryPoint?.isNone then [.noEntryPoint] else [] := by
  rw [decode, Traced.bind_of_ok hread]
  dsimp only
  rw [hsplit]
  dsimp only
  rw [Traced.bind_of_ok hrun, List.append_assoc]
  cases hpoint : m.entryPoint? <;> rfl

/-- The outcome of reading words whose instructions are `chunks` and behind which stands `rest`. -/
structure FramedRun (words : List UInt32) (header : Header) (body : List UInt32)
    (chunks : List (List UInt32)) (rest : List UInt32) : Prop where
  logical_eq : Header.logical words = header.toWords ++ body
  longest_cut : LongestCut body chunks rest
  refused_iff : ∀ fault, (runChunks header chunks).result = .error fault ↔
    FirstFault header.bound.toNat (chunks.filter handled) fault
  of_end : rest = [] →
    (decode words).result = (runChunks header chunks).result ∧
    ∀ m, (decode words).result = .ok m → ∃ decoded skipped,
      decoded = chunks.countP handled ∧ decoded + skipped = chunks.length ∧
      (decode words).log = (Header.read words).log ++ (runChunks header chunks).log ++
        .instructionsRead decoded skipped :: if m.entryPoint?.isNone then [.noEntryPoint] else []
  of_rest : ∀ head tail index, rest = head :: tail →
    index = Header.size + chunks.flatten.length →
    (count head = 0 ∨ words.length < index + count head) ∧
    ∃ fault, (decode words).result = (runChunks header chunks).result.bind (fun _ => .error fault) ∧
      fault.category = .malformed ∧
      fault.message =
        if count head = 0 then s!"Instruction at word {index} has a word count of 0"
        else s!"Instruction at word {index} runs past the end of the module ({count head} words)"

/-- The outcome is that of the longest run of whole instructions, and of the words behind it. -/
theorem exists_framedRun {words : List UInt32} (hlen : Header.size ≤ words.length)
    (hmarked : Header.Marked words) :
    ∃ header body chunks rest, FramedRun words header body chunks rest := by
  obtain ⟨header, body, hlogical, hread⟩ := Header.exists_read_of_marked hlen hmarked
  obtain ⟨chunks, rest, hcut, hstuck⟩ := exists_cut body
  have hsplit := split_of_cut hcut hstuck Header.size
  have hrun : (chunks.map ofChunk).foldlM (absorb header.bound.toNat) (blank header) =
      runChunks header chunks := foldlM_absorb_ofChunk hcut.whole _ _
  refine ⟨header, body, chunks, rest, hlogical, hcut.longest_of_stuck hstuck,
    runChunks_eq_error_iff hcut.whole, ?_, ?_⟩
  · intro hrest
    rw [hrest] at hsplit
    have hresult : (decode words).result = (runChunks header chunks).result := by
      rw [result_decode_of_read hread, hsplit, hrun]
      cases (runChunks header chunks).result <;> rfl
    refine ⟨hresult, ?_⟩
    intro m hok
    have hlog := log_decode_of_whole hread hsplit (hrun ▸ hresult.symm.trans hok)
    rw [hrun, countP_isRead_map_ofChunk hcut.whole,
      countP_not_isRead_map_ofChunk hcut.whole] at hlog
    exact ⟨_, _, rfl, (List.length_eq_countP_add_countP handled).symm, hlog⟩
  · intro head tail index hrest hindex
    rw [hrest, ← hindex] at hsplit
    refine ⟨?_, ?_⟩
    · have hlength : words.length = index + (tail.length + 1) := by
        rw [hindex, ← Header.length_logical, hlogical, hcut.eq_append, hrest]
        simp only [List.length_append, List.length_cons, Header.length_toWords]
        omega
      rw [hrest] at hstuck
      rcases hstuck with hzero | hshort
      · exact .inl hzero
      · exact .inr (by omega)
    · refine ⟨framingFault index head, ?_, category_framingFault index head,
        message_framingFault index head⟩
      rw [result_decode_of_read hread, hsplit, hrun]
      rfl

/-- A void type, an instruction that says nothing, and the start of one with five words. -/
def truncatedWords : List UInt32 :=
  [Header.magic, 0x10000, 0, 4, 0, 0x20013, 1, 0x10000, 0x50036, 1]

theorem exists_framedRun_truncated :
    Header.size ≤ truncatedWords.length ∧ Header.Marked truncatedWords ∧
    ∃ header body chunks rest, FramedRun truncatedWords header body chunks rest := by
  have hlen : Header.size ≤ truncatedWords.length := by decide
  have hmarked : Header.Marked truncatedWords := .inl rfl
  exact ⟨hlen, hmarked, exists_framedRun hlen hmarked⟩

end ShaderInterface.Module
