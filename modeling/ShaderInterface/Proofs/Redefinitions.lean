import ShaderInterface.Proofs.DecodeFraming
import ShaderInterface.Proofs.DefaultEntryPoint
import ShaderInterface.Proofs.ReadingReports

namespace ShaderInterface

/-- A change at one place of a list changes a count by what it changes there. -/
theorem countP_modify_add {α : Type} {p : α → Bool} {l : List α} {n : Nat} {a : α}
    (h : l[n]? = some a) (f : α → α) :
    (l.modify n f).countP p + (p a).toNat = l.countP p + (p (f a)).toNat := by
  obtain ⟨hn, ha⟩ := List.getElem?_eq_some_iff.1 h
  obtain ⟨front, a', back, rfl, rfl, hmodify⟩ := List.exists_of_modify f hn
  simp only [List.getElem_append_right, Nat.sub_self, Nat.le_refl, List.getElem_cons_zero] at ha
  rw [hmodify, ha]
  cases hp : p a <;> cases hf : p (f a) <;> simp [hp, hf] <;> omega

theorem Header.level_of_mem_log_read {words : List UInt32} {e : Event}
    (h : e ∈ (Header.read words).log) : e.level = .debug := by
  unfold read at h
  split at h
  · split at h
    · cases List.mem_singleton.1 h
      rfl
    · split at h
      · rcases List.mem_pair.1 h with rfl | rfl <;> rfl
      · cases h
  · cases h

/-- What an id can be declared to be. Of two declarations in one role the later counts. -/
inductive Role
  | type
  | var
  | const
  deriving DecidableEq

namespace Role

def filled : Role → Entry → Bool
  | type, e => e.type?.isSome
  | var, e => e.var?.isSome
  | const, e => e.const?.isSome

def declares : Role → Instruction → Bool
  | type, .declareType _ _ | var, .declareVariable _ _ | const, .declareConstant _ _ => true
  | _, _ => false

def redefines : Role → Event → Bool
  | type, .typeRedefined _ _ _ | var, .variableRedefined _ | const, .constantRedefined _ => true
  | _, _ => false

theorem redefines_of_debug (r : Role) (e : Event) (h : e.level = .debug) :
    r.redefines e = false := by
  cases e with
  | typeRedefined | variableRedefined | constantRedefined => cases h
  | _ => cases r <;> rfl

def opcodes : Role → List Opcode
  | type =>
    [.opTypeVoid, .opTypeBool, .opTypeInt, .opTypeFloat, .opTypeVector, .opTypeMatrix,
     .opTypeImage, .opTypeSampler, .opTypeSampledImage, .opTypeArray, .opTypeStruct,
     .opTypePointer]
  | var => [.opVariable]
  | const => [.opConstant, .opConstantComposite]

def spelledBy (r : Role) (f : Frame) : Bool :=
  (r.opcodes.map Opcode.number).contains f.opcode

/-- The number of ids that are declared in this role. -/
def held (r : Role) (t : IdTable) : Nat :=
  t.entries.countP r.filled

variable {r : Role}

theorem filled_tell {target : UInt32} {i : Instruction} (h : i.target? = some target)
    (e : Entry) : r.filled (e.tell target i) = (r.declares i || r.filled e) := by
  cases r <;> cases i <;> cases h <;> simp [filled, declares, Entry.tell]

theorem declares_of_target?_eq_none {i : Instruction} (h : i.target? = none) :
    r.declares i = false := by
  cases i with
  | entryPoint | otherMode => cases r <;> rfl
  | _ => cases h

theorem declares_iff_of_mem {i : Instruction} {opcode : Opcode} (h : opcode ∈ i.opcodes) :
    r.declares i = true ↔ opcode ∈ r.opcodes := by
  cases i with
  | declareType target decl =>
    cases List.mem_singleton.1 h
    cases r <;> cases decl <;> simp [declares, opcodes, TypeDecl.opcode]
  | declareConstant target decl =>
    rcases List.mem_pair.1 h with rfl | rfl <;> cases r <;> simp [declares, opcodes]
  | _ =>
    cases List.mem_singleton.1 h
    cases r <;> simp [declares, opcodes]

theorem held_modify {t : IdTable} {id : UInt32} {e : Entry} (h : t.get? id.toNat = some e)
    (f : Entry → Entry) :
    r.held (t.modify id f) + (r.filled e).toNat = r.held t + (r.filled (f e)).toNat := by
  rw [IdTable.get?_natCast, ← Array.getElem?_toList] at h
  have hcount := countP_modify_add (p := r.filled) h f
  unfold held IdTable.modify
  rwa [← Array.countP_toList, ← Array.countP_toList, Array.toList_modify]

theorem held_blank (bound : Nat) : r.held (.blank bound) = 0 := by
  unfold held IdTable.blank
  rw [Array.countP_replicate]
  cases r <;> rfl

end Role

namespace Module

variable {r : Role} {m : Module} {i : Instruction}

theorem countP_notices {target : UInt32} {e : Entry} (htarget : i.target? = some target)
    (he : m.ids.get? target.toNat = some e) :
    (m.notices i).countP r.redefines = (r.declares i && r.filled e).toNat := by
  cases i with
  | declareType id decl =>
    cases htarget
    cases r <;> cases hold : e.type? <;>
      simp [notices, he, hold, Role.declares, Role.filled, Role.redefines]
  | declareVariable id decl =>
    cases htarget
    cases r <;> cases hold : e.var? <;>
      simp [notices, he, hold, Role.declares, Role.filled, Role.redefines]
  | declareConstant id decl =>
    cases htarget
    cases r <;> cases hold : e.const? <;>
      simp [notices, he, hold, Role.declares, Role.filled, Role.redefines]
  | entryPoint | otherMode => cases htarget
  | _ => cases r <;> rfl

theorem countP_notices_of_target?_eq_none (h : i.target? = none) :
    (m.notices i).countP r.redefines = 0 := by
  cases i with
  | entryPoint point =>
    cases hpoint : m.entryPoint? <;> cases r <;> simp [notices, hpoint, Role.redefines]
  | otherMode => rfl
  | _ => cases h

/-- What one instruction does to a role: it fills a slot or is reported, if it declares an id in
this role, and otherwise neither. -/
theorem countP_notices_add_held (h : ∀ id ∈ i.ids, id.toNat < m.ids.size) :
    (m.notices i).countP r.redefines + r.held (m.apply i).ids =
      r.held m.ids + (r.declares i).toNat := by
  cases htarget : i.target? with
  | none =>
    rw [countP_notices_of_target?_eq_none htarget, ids_apply_of_target?_eq_none htarget,
      Role.declares_of_target?_eq_none htarget]
    simp
  | some target =>
    obtain ⟨e, he⟩ := IdTable.exists_get?_of_lt (h target (Instruction.mem_ids_of_target? htarget))
    have hheld := Role.held_modify (r := r) he (·.tell target i)
    rw [Role.filled_tell htarget] at hheld
    rw [countP_notices htarget he, ids_apply_of_target?_eq_some htarget]
    cases hd : r.declares i <;> cases hf : r.filled e <;> simp [hd, hf] at hheld ⊢ <;> omega

theorem countP_noticesOf_add_held {is : List Instruction}
    (h : ∀ i ∈ is, ∀ id ∈ i.ids, id.toNat < m.ids.size) :
    (m.noticesOf is).countP r.redefines + r.held (is.foldl apply m).ids =
      r.held m.ids + is.countP r.declares := by
  induction is generalizing m with
  | nil => simp [noticesOf]
  | cons i rest ih =>
    obtain ⟨hi, hrest⟩ := List.forall_mem_cons.1 h
    have hstep := countP_notices_add_held (r := r) hi
    rw [← size_ids_apply m i] at hrest
    have hrun := ih hrest
    rw [noticesOf, List.countP_append, List.foldl_cons, List.countP_cons]
    cases hd : r.declares i <;> simp [hd] at hstep ⊢ <;> omega

/-- Every warning about an instruction is that it declares something anew. -/
theorem countP_notices_warning :
    (m.notices i).countP (·.level = .warning) =
      (m.notices i).countP Role.type.redefines + (m.notices i).countP Role.var.redefines +
        (m.notices i).countP Role.const.redefines := by
  unfold notices
  split
  · split <;> rfl
  · split <;> rfl
  · split <;> rfl
  · split <;> rfl
  · rfl

theorem countP_noticesOf_warning (is : List Instruction) (m : Module) :
    (m.noticesOf is).countP (·.level = .warning) =
      (m.noticesOf is).countP Role.type.redefines + (m.noticesOf is).countP Role.var.redefines +
        (m.noticesOf is).countP Role.const.redefines := by
  induction is generalizing m with
  | nil => rfl
  | cons i rest ih =>
    simp only [noticesOf, List.countP_append, ih, countP_notices_warning]
    omega

end Module

namespace Frame

variable {r : Role} {bound : Nat} {f : Frame} {frames : List Frame} {i : Instruction}
  {is : List Instruction}

theorem Tells.declares_eq (h : f.Tells bound i) : r.declares i = r.spelledBy f := by
  obtain ⟨named, hnamed, hspelled⟩ := h.spelledBy
  rw [Bool.eq_iff_iff, Role.declares_iff_of_mem hspelled.mem_opcodes, Role.spelledBy,
    List.contains_iff_mem, List.mem_map]
  constructor
  · intro hmem
    exact ⟨named, hmem, (Opcode.eq_number_of_ofCode? hnamed).symm⟩
  · intro ⟨opcode, hmem, hopcode⟩
    rw [← hopcode, Opcode.ofCode?_number] at hnamed
    rwa [← Option.some.inj hnamed]

theorem countP_declares_of_readAll (h : readAll bound frames = .ok is) :
    is.countP r.declares = frames.countP r.spelledBy := by
  have hhandled : r.opcodes.map Opcode.number ⊆ Instruction.handledCodes := by
    cases r <;> decide
  apply countP_eq_of_readAll h fun f i hf => hf.declares_eq
  intro f hf
  rw [Role.spelledBy, ← Bool.not_eq_true, List.contains_iff_mem]
  exact fun hmem => hf (hhandled hmem)

end Frame

namespace Module

variable {words body : List UInt32} {frames : List Frame} {is : List Instruction} {m : Module}

/-- What is reported above the level of debugging comes from the instructions that are read, or
tells that no entry point is there. -/
theorem countP_log_decode {p : Event → Bool} (hp : ∀ e, e.level = .debug → p e = false)
    (hheader : (Header.read words).result = .ok (m.header, body))
    (hsplit : Frame.split Header.size body = (frames, none))
    (hread : Frame.readAll m.header.bound.toNat frames = .ok is) (hbuild : m = build m.header is) :
    (decode words).log.countP p = ((blank m.header).noticesOf is).countP p +
      (if m.entryPoint?.isNone then [Event.noEntryPoint] else []).countP p := by
  have hrun : (frames.foldlM (absorb m.header.bound.toNat) (blank m.header)).result = .ok m := by
    rw [result_foldlM_absorb, hread, hbuild, build_header]
    rfl
  have hfront : (Header.read words).log.countP p = 0 := by
    apply List.countP_eq_zero.2
    intro e he
    simp [hp e (Header.level_of_mem_log_read he)]
  have hframes : (frames.foldlM (absorb m.header.bound.toNat) (blank m.header)).log.countP p =
      ((blank m.header).noticesOf is).countP p := by
    rw [← log_foldlM_absorb hread, List.countP_filter]
    apply List.countP_congr
    intro e _
    cases e with
    | unknownCode numbering code => simp [hp (.unknownCode numbering code) rfl]
    | _ => simp [Event.isUnknownCode]
  rw [log_decode_of_whole hheader hsplit hrun, List.countP_append, List.countP_append, hfront,
    hframes, Nat.zero_add, List.countP_cons_of_neg (by rw [hp _ rfl]; exact Bool.false_ne_true)]

theorem countP_redefines_add_held {h : Header}
    (hread : Frame.readAll h.bound.toNat frames = .ok is) (r : Role) :
    ((blank h).noticesOf is).countP r.redefines + r.held (build h is).ids =
      frames.countP r.spelledBy := by
  have hids := Frame.ids_lt_of_forall₂ (Frame.forall₂_of_readAll hread)
  rw [← IdTable.size_blank h.bound.toNat] at hids
  have hrun := countP_noticesOf_add_held (r := r) (m := blank h) hids
  rw [blank, Role.held_blank, Nat.zero_add, Frame.countP_declares_of_readAll hread] at hrun
  exact hrun

theorem entryPoint?_build_isNone_iff {h : Header}
    (hread : Frame.readAll h.bound.toNat frames = .ok is) :
    (build h is).entryPoint?.isNone = true ↔
      ¬ ∃ f ∈ frames, f.opcode = Opcode.opEntryPoint.number := by
  rw [Option.isNone_iff_eq_none, entryPoint?_build, Frame.last_entryPoint?_eq_none_iff hread]
  simp

/-- A slot that is written over is a slot that is warned about, and there is no further warning but
that of a module without an entry point. -/
theorem warnings_account_for_redefinitions (hdecode : (decode words).result = .ok m) :
    ∃ body frames, (Header.read words).result = .ok (m.header, body) ∧
      Frame.split Header.size body = (frames, none) ∧
      (∀ r : Role, (decode words).log.countP r.redefines + r.held m.ids =
        frames.countP r.spelledBy) ∧
      ((decode words).log.countP (·.level = .warning) : Int) =
        (frames.countP Role.type.spelledBy - Role.type.held m.ids) +
        (frames.countP Role.var.spelledBy - Role.var.held m.ids) +
        (frames.countP Role.const.spelledBy - Role.const.held m.ids) +
        if ∃ f ∈ frames, f.opcode = Opcode.opEntryPoint.number then 0 else 1 := by
  obtain ⟨is, hprogram, hbuild⟩ := exists_program_of_decode hdecode
  obtain ⟨body, frames, hheader, hsplit, hread⟩ := program_eq_ok_iff.1 hprogram
  have hslots := countP_redefines_add_held hread
  have hpoint := entryPoint?_build_isNone_iff hread
  rw [← hbuild] at hslots hpoint
  refine ⟨body, frames, hheader, hsplit, ?_, ?_⟩
  · intro r
    have hrole : r.redefines .noEntryPoint = false := by
      cases r <;> rfl
    rw [countP_log_decode r.redefines_of_debug hheader hsplit hread hbuild, ← hslots r]
    split <;> simp [hrole]
  · have htype := hslots .type
    have hvar := hslots .var
    have hconst := hslots .const
    have hwarnings := countP_noticesOf_warning is (blank m.header)
    have hquiet : ∀ e : Event, e.level = .debug → decide (e.level = .warning) = false := by
      intro e he
      rw [he]
      rfl
    rw [countP_log_decode hquiet hheader hsplit hread hbuild]
    by_cases hentry : ∃ f ∈ frames, f.opcode = Opcode.opEntryPoint.number
    · rw [if_neg (fun hnone => hpoint.1 hnone hentry), if_pos hentry, List.countP_nil]
      omega
    · rw [if_pos (hpoint.2 hentry), if_neg hentry]
      have hone : [Event.noEntryPoint].countP (·.level = .warning) = 1 := rfl
      omega

def twiceWords : List UInt32 :=
  [Header.magic, 0x10000, 0, 5, 0,
   0x20013, 1,
   0x20014, 1,
   0x40020, 2, 1, 1,
   0x4003b, 2, 3, 1,
   0x4003b, 2, 3, 3,
   0x4002b, 1, 4, 7,
   0x3002c, 1, 4]

def twiceModule : Module where
  header := ⟨0x10000, 0, 5, 0⟩
  ids := ⟨#[{}, { type? := some .bool }, { type? := some (.pointer .input 1) },
    { var? := some ⟨2, .output, []⟩ }, { const? := some ⟨1, []⟩ }]⟩
  entryPoint? := none

theorem warnings_account_for_redefinitions_twice :
    (decode twiceWords).result = .ok twiceModule ∧
      (decode twiceWords).log.countP Role.type.redefines = 1 ∧
      (decode twiceWords).log.countP (·.level = .warning) = 4 := by
  have hdecode : (decode twiceWords).result = .ok twiceModule := by decide +kernel
  obtain ⟨body, frames, hread, hsplit, hroles, hwarnings⟩ :=
    warnings_account_for_redefinitions hdecode
  have hbody : (Header.read twiceWords).result = .ok (twiceModule.header, twiceWords.drop 5) := rfl
  have hframes : Frame.split Header.size (twiceWords.drop 5) =
      ([⟨19, [1]⟩, ⟨20, [1]⟩, ⟨32, [2, 1, 1]⟩, ⟨59, [2, 3, 1]⟩, ⟨59, [2, 3, 3]⟩,
        ⟨43, [1, 4, 7]⟩, ⟨44, [1, 4]⟩], none) := by
    decide +kernel
  cases hbody.symm.trans hread
  cases hframes.symm.trans hsplit
  have htypes : (decode twiceWords).log.countP Role.type.redefines + 2 = 3 := hroles .type
  exact ⟨hdecode, by omega, Int.ofNat_inj.1 (hwarnings.trans (by decide))⟩

end Module

end ShaderInterface
