import ShaderInterface.Proofs.InstructionOrder

namespace ShaderInterface

namespace Frame

open Instruction

variable {α : Type} {bound : Nat} {f : Frame} {frames : List Frame} {i : Instruction}
  {is : List Instruction} {opcode : Opcode}

theorem Tells.spelledBy_number (h : f.Tells bound i) (hopcode : f.opcode = opcode.number) :
    i.SpelledBy bound opcode f.operands := by
  obtain ⟨named, hnamed, hspelled⟩ := h.spelledBy
  rw [hopcode, Opcode.ofCode?_number] at hnamed
  rw [Option.some.inj hnamed]
  exact hspelled

theorem Tells.opcode_mem (h : f.Tells bound i) : f.opcode ∈ i.opcodes.map Opcode.number := by
  obtain ⟨named, hnamed, hspelled⟩ := h.spelledBy
  rw [Opcode.eq_number_of_ofCode? hnamed]
  exact List.mem_map_of_mem hspelled.mem_opcodes

theorem not_handled_of_not_isRead (h : Module.isRead f = false) : f.opcode ∉ handledCodes := by
  rw [← reading?_isSome_iff]
  exact Bool.eq_false_iff.1 h

/-- What the instructions answer stands in the frames, if every frame that is read shows what its
instruction answers and no other shows anything. -/
theorem filterMap_eq_of_readAll {ask : Instruction → Option α} {look : Frame → Option α}
    (h : readAll bound frames = .ok is)
    (hread : ∀ f i, Tells bound f i → ask i = look f)
    (hother : ∀ f : Frame, f.opcode ∉ handledCodes → look f = none) :
    is.filterMap ask = frames.filterMap look := by
  obtain ⟨hall, htold⟩ := readAll_eq_ok_iff.1 h
  rw [← htold, List.filterMap_filterMap]
  apply List.filterMap_congr
  intro f hf
  obtain ⟨i?, hi⟩ := hall f hf
  rw [told?_of_read hi]
  cases i? with
  | none => exact (hother f (not_handled_of_not_isRead (isRead_of_read hi).symm)).symm
  | some i => exact hread f i (tells_of_read hi)

theorem countP_eq_of_readAll {p : Instruction → Bool} {q : Frame → Bool}
    (h : readAll bound frames = .ok is) (hread : ∀ f i, Tells bound f i → p i = q f)
    (hother : ∀ f : Frame, f.opcode ∉ handledCodes → q f = false) :
    is.countP p = frames.countP q := by
  have hfilter : is.filterMap (fun i => if p i then some () else none) =
      frames.filterMap fun f => if q f then some () else none := by
    apply filterMap_eq_of_readAll h
    · intro f i hf
      rw [hread f i hf]
    · intro f hf
      rw [hother f hf]
      rfl
  have hsome : ∀ b : Bool, (if b then some () else none).isSome = b := by decide
  have hlength := congrArg List.length hfilter
  simpa only [List.length_filterMap_eq_countP, hsome] using hlength

/-- The work group size that a frame gives to a function. -/
def groupSize? (function : UInt32) (f : Frame) : Option LocalSize :=
  if f.opcode = Opcode.opExecutionMode.number then
    match f.operands with
    | target :: mode :: x :: y :: z :: _ =>
      if target = function ∧ mode = localSizeMode then some ⟨x, y, z⟩ else none
    | _ => none
  else none

theorem Tells.localSizeOf?_eq (h : f.Tells bound i) (function : UInt32) :
    localSizeOf? function i = f.groupSize? function := by
  by_cases hopcode : f.opcode = Opcode.opExecutionMode.number
  · rw [groupSize?, if_pos hopcode]
    have hspelled := h.spelledBy_number hopcode
    cases i with
    | localSize target size =>
      obtain ⟨rest, hrest⟩ := hspelled.begins
      rw [← hrest]
      simp
    | otherMode target mode =>
      obtain ⟨hmode, rest, hrest⟩ := hspelled.begins
      rw [← hrest]
      match rest with
      | [] | [_] | [_, _] => rfl
      | _ :: _ :: _ :: _ => simp [hmode]
    | declareType target decl =>
      have hdecl := List.mem_singleton.1 hspelled.mem_opcodes
      cases decl <;> cases hdecl
    | _ => exact absurd hspelled.mem_opcodes (by simp [opcodes])
  · rw [groupSize?, if_neg hopcode]
    cases i with
    | localSize target size => exact absurd (List.mem_singleton.1 h.opcode_mem) hopcode
    | _ => rfl

theorem last_localSizeOf?_eq (h : readAll bound frames = .ok is) (function : UInt32) :
    last (localSizeOf? function) is = (frames.filterMap (groupSize? function)).getLast? := by
  rw [last, filterMap_eq_of_readAll h fun f i hf => hf.localSizeOf?_eq function]
  intro f hf
  apply if_neg
  intro hopcode
  rw [hopcode] at hf
  exact hf (by decide)

/-- The constant that a frame gives to an id: of which type, and in which words. -/
def constant? (id : UInt32) (f : Frame) : Option ConstantDecl :=
  if f.opcode = Opcode.opConstant.number ∨ f.opcode = Opcode.opConstantComposite.number then
    match f.operands with
    | type :: target :: values => if target = id then some ⟨type, values⟩ else none
    | _ => none
  else none

theorem Tells.eq_declareConstant (h : f.Tells bound i)
    (hopcode : f.opcode = Opcode.opConstant.number ∨
      f.opcode = Opcode.opConstantComposite.number) :
    ∃ target decl, i = .declareConstant target decl := by
  have hmem : ∃ opcode ∈ [Opcode.opConstant, .opConstantComposite], opcode ∈ i.opcodes := by
    rcases hopcode with hopcode | hopcode
    · exact ⟨_, .head _, (h.spelledBy_number hopcode).mem_opcodes⟩
    · exact ⟨_, .tail _ (.head _), (h.spelledBy_number hopcode).mem_opcodes⟩
  cases i with
  | declareConstant target decl => exact ⟨target, decl, rfl⟩
  | declareType target decl => cases decl <;> simp [opcodes, TypeDecl.opcode] at hmem
  | _ => simp [opcodes] at hmem

theorem Tells.constantOf?_eq (h : f.Tells bound i) (id : UInt32) :
    constantOf? id i = f.constant? id := by
  by_cases hopcode : f.opcode = Opcode.opConstant.number ∨
      f.opcode = Opcode.opConstantComposite.number
  · obtain ⟨target, decl, rfl⟩ := h.eq_declareConstant hopcode
    obtain ⟨named, -, hspelled⟩ := h.spelledBy
    have hbegins : f.operands = decl.type :: target :: decl.values := hspelled.begins
    rw [constant?, if_pos hopcode, hbegins]
    rfl
  · rw [constant?, if_neg hopcode]
    cases i with
    | declareConstant target decl =>
      have hmem := h.opcode_mem
      simp only [opcodes, List.map_cons, List.map_nil, List.mem_cons, List.not_mem_nil,
        or_false] at hmem
      exact absurd hmem hopcode
    | _ => rfl

theorem last_constantOf?_eq (h : readAll bound frames = .ok is) (id : UInt32) :
    last (constantOf? id) is = (frames.filterMap (constant? id)).getLast? := by
  rw [last, filterMap_eq_of_readAll h fun f i hf => hf.constantOf?_eq id]
  intro f hf
  apply if_neg
  rintro (hopcode | hopcode)
  · rw [hopcode] at hf
    exact hf (by decide)
  · rw [hopcode] at hf
    exact hf (by decide)

end Frame

end ShaderInterface
