import ShaderInterface.Proofs.Assembly
import ShaderInterface.Proofs.ByteOrder
import ShaderInterface.Proofs.Reads
import ShaderInterface.Proofs.TableProjection

namespace ShaderInterface

namespace Frame

theorem read_of_reads {bound : Nat} {f : Frame} {reading : Reading Instruction} {i : Instruction}
    (rest : List UInt32) (hreading : f.reading? = some reading)
    (h : Reading.Reads bound reading f.operands i rest) : f.read bound = .ok (some i) := by
  obtain ⟨position, hresult⟩ := h f.opcode 1
  rw [read_of_reading?_eq_some hreading, cursor, hresult]
  rfl

end Frame

namespace Assembly

open Reading

theorem toNat_lt_of_lt {id bound : UInt32} (h : id < bound) : (id.toNat : Int) < bound.toNat :=
  Int.ofNat_lt.2 (UInt32.lt_iff_toNat_lt.1 h)

theorem TypeForm.exists_reads {bound : UInt32} (form : TypeForm)
    (h : ∀ id ∈ form.ids, id < bound) :
    ∃ reading, (∀ operands, Frame.reading? ⟨form.number, operands⟩ =
        some (do return .declareType (← Reading.id) (← reading))) ∧
      Reads bound.toNat reading form.operands form.decl [] := by
  have hid : ∀ id ∈ form.ids, (id.toNat : Int) < bound.toNat :=
    fun id hmem => toNat_lt_of_lt (h id hmem)
  cases form with
  | void => exact ⟨_, fun _ => rfl, .pure _⟩
  | bool => exact ⟨_, fun _ => rfl, .pure _⟩
  | int width signed =>
    exact ⟨_, fun _ => rfl, (Reads.word _ _).bind ((Reads.flag _ _).bind (.pure _))⟩
  | float width => exact ⟨_, fun _ => rfl, (Reads.word _ _).bind (.pure _)⟩
  | vector component count =>
    have hc := hid component List.mem_cons_self
    exact ⟨_, fun _ => rfl, (Reads.id hc _).bind ((Reads.word _ _).bind (.pure _))⟩
  | matrix column count =>
    have hc := hid column List.mem_cons_self
    exact ⟨_, fun _ => rfl, (Reads.id hc _).bind ((Reads.word _ _).bind (.pure _))⟩
  | image sampledType dimension depth arrayed multisampled sampled format access? =>
    have hs := hid sampledType List.mem_cons_self
    refine ⟨_, fun _ => rfl, Reads.bind ?_ (.pure _)⟩
    exact (Reads.id hs _).bind ((Reads.dimension _ _).bind ((Reads.flag _ _).bind
      ((Reads.flag _ _).bind ((Reads.flag _ _).bind ((Reads.flag _ _).bind
        ((Reads.imageFormat _ _).bind ((Reads.accessQualifier? _).bind (.pure _))))))))
  | sampler => exact ⟨_, fun _ => rfl, .pure _⟩
  | sampledImage target =>
    have ht := hid target List.mem_cons_self
    exact ⟨_, fun _ => rfl, (Reads.id ht _).bind (.pure _)⟩
  | array element length =>
    have he := hid element List.mem_cons_self
    have hl := hid length (List.mem_cons_of_mem _ List.mem_cons_self)
    exact ⟨_, fun _ => rfl, (Reads.id he _).bind ((Reads.id hl _).bind (.pure _))⟩
  | struct members => exact ⟨_, fun _ => rfl, (Reads.ids hid).bind (.pure _)⟩
  | pointer storage target =>
    have ht := hid target List.mem_cons_self
    exact ⟨_, fun _ => rfl, (Reads.storageClass _ _).bind ((Reads.id ht _).bind (.pure _))⟩

/-- One statement: the frame that is written says what the statement means. -/
theorem Statement.read_frame {bound : UInt32} {s : Statement} (h : s.Admissible bound) :
    s.frame.read bound.toNat = .ok s.meaning? := by
  have hid : ∀ id ∈ s.ids, (id.toNat : Int) < bound.toNat :=
    fun id hmem => toNat_lt_of_lt (h.ids_lt id hmem)
  have hw := h.wellFormed
  cases s with
  | entryPoint model function text interfaceIds =>
    have hf := hid function List.mem_cons_self
    have hi : ∀ id ∈ interfaceIds, (id.toNat : Int) < bound.toNat :=
      fun id hmem => hid id (List.mem_cons_of_mem _ hmem)
    exact Frame.read_of_reads _ rfl ((Reads.executionModel _ _).bind ((Reads.id hf _).bind
      ((Reads.text hw _).bind ((Reads.ids hi).bind (.pure _)))))
  | localSize function x y z surplus =>
    have hf := hid function List.mem_cons_self
    exact Frame.read_of_reads _ rfl ((Reads.id hf _).bind ((Reads.word _ _).bind
      ((Reads.localSize x y z surplus).bind (.pure _))))
  | otherMode function mode literals =>
    have hf := hid function List.mem_cons_self
    refine Frame.read_of_reads literals rfl
      ((Reads.id hf _).bind ((Reads.word _ _).bind ?_))
    -- The literals of any other mode stay unread.
    have hmode : mode ≠ Instruction.localSizeMode := hw
    rw [if_neg hmode]
    exact .pure _
  | name target text =>
    have ht := hid target List.mem_cons_self
    refine Frame.read_of_reads [] rfl ((Reads.id ht _).bind (Reads.bind ?_ (.pure _)))
    simpa using Reads.text hw []
  | memberName target member text =>
    have ht := hid target List.mem_cons_self
    refine Frame.read_of_reads [] rfl
      ((Reads.id ht _).bind ((Reads.member hw.1 _).bind (Reads.bind ?_ (.pure _))))
    simpa using Reads.text hw.2 []
  | decorate target kind literals =>
    have ht := hid target List.mem_cons_self
    exact Frame.read_of_reads _ rfl ((Reads.id ht _).bind ((Reads.decoration _ _).bind (.pure _)))
  | memberDecorate target member kind literals =>
    have ht := hid target List.mem_cons_self
    exact Frame.read_of_reads _ rfl ((Reads.id ht _).bind ((Reads.member hw _).bind
      ((Reads.decoration _ _).bind (.pure _))))
  | declareType target form =>
    have ht := hid target List.mem_cons_self
    obtain ⟨reading, hreading, hreads⟩ :=
      form.exists_reads fun id hmem => h.ids_lt id (List.mem_cons_of_mem _ hmem)
    exact Frame.read_of_reads _ (hreading _) ((Reads.id ht _).bind (hreads.bind (.pure _)))
  | declareVariable type target storage initializer =>
    have ht := hid type List.mem_cons_self
    have ht' := hid target (List.mem_cons_of_mem _ List.mem_cons_self)
    have hi : ∀ id ∈ initializer, (id.toNat : Int) < bound.toNat :=
      fun id hmem => hid id (List.mem_cons_of_mem _ (List.mem_cons_of_mem _ hmem))
    exact Frame.read_of_reads _ rfl ((Reads.id ht _).bind ((Reads.id ht' _).bind
      ((Reads.storageClass _ _).bind ((Reads.ids hi).bind (.pure _)))))
  | declareConstant type target values =>
    have ht := hid type List.mem_cons_self
    have ht' := hid target (List.mem_cons_of_mem _ List.mem_cons_self)
    exact Frame.read_of_reads _ rfl ((Reads.id ht _).bind ((Reads.id ht' _).bind
      ((Reads.literals _).bind (.pure _))))
  | declareComposite type target values =>
    have ht := hid type List.mem_cons_self
    have ht' := hid target (List.mem_cons_of_mem _ List.mem_cons_self)
    exact Frame.read_of_reads _ rfl ((Reads.id ht _).bind ((Reads.id ht' _).bind
      ((Reads.literals _).bind (.pure _))))
  | unhandled number operands =>
    refine Frame.read_of_reading?_eq_none ?_ _
    rw [← Option.not_isSome_iff_eq_none, Frame.reading?_isSome_iff]
    exact hw

theorem toNat_head (n : Nat) (number : UInt16) (hn : n < 65536) :
    (UInt32.ofNat n <<< 16 ||| number.toUInt32).toNat = n * 65536 + number.toNat := by
  have hcount : (UInt32.ofNat n).toNat = n :=
    UInt32.toNat_ofNat_of_lt (Nat.lt_trans hn (by decide))
  have hor := Nat.shiftLeft_add_eq_or_of_lt (i := 16) number.toNat_lt n
  rw [UInt32.toNat_or, UInt32.toNat_shiftLeft, UInt16.toNat_toUInt32, hcount]
  simp only [UInt32.reduceToNat, Nat.reduceMod, Nat.shiftLeft_eq] at hor ⊢
  rw [Nat.mod_eq_of_lt (by omega), ← hor]

theorem count_head {n : Nat} (number : UInt16) (hn : n < 65536) :
    ((UInt32.ofNat n <<< 16 ||| number.toUInt32) >>> 16).toNat = n := by
  have hnumber := number.toNat_lt
  rw [UInt32.toNat_shiftRight, toNat_head n number hn]
  simp only [UInt32.reduceToNat, Nat.reduceMod, Nat.shiftRight_eq_div_pow]
  omega

theorem number_head {n : Nat} (number : UInt16) (hn : n < 65536) :
    (UInt32.ofNat n <<< 16 ||| number.toUInt32).toUInt16 = number := by
  have hnumber := number.toNat_lt
  rw [← UInt16.toNat_inj, UInt32.toNat_toUInt16, toNat_head n number hn]
  omega

theorem Statement.whole_write {s : Statement} (h : s.operands.length + 1 < 65536) :
    Frame.Whole s.write :=
  count_head s.number h

theorem Statement.ofChunk_write {s : Statement} (h : s.operands.length + 1 < 65536) :
    Frame.ofChunk s.write = s.frame :=
  congrArg (Frame.mk · s.operands) (number_head s.number h)

theorem split_write (statements : List Statement)
    (h : ∀ s ∈ statements, s.operands.length + 1 < 65536) (index : Nat) :
    Frame.split index (statements.flatMap Statement.write) =
      (statements.map Statement.frame, none) := by
  have hcut : Frame.Cut (statements.flatMap Statement.write)
      (statements.map Statement.write) [] := by
    refine ⟨(List.append_nil _).symm, List.forall_mem_map.2 ?_⟩
    exact fun s hmem => Statement.whole_write (h s hmem)
  rw [Frame.split_of_cut hcut trivial, List.map_map]
  exact Prod.ext (List.map_congr_left fun s hmem => Statement.ofChunk_write (h s hmem)) rfl

theorem readAll_frames {bound : UInt32} (statements : List Statement)
    (h : ∀ s ∈ statements, s.Admissible bound) :
    Frame.readAll bound.toNat (statements.map Statement.frame) =
      .ok (statements.filterMap Statement.meaning?) := by
  induction statements with
  | nil => rfl
  | cons s rest ih =>
    rw [List.map_cons, Frame.readAll, Statement.read_frame (h s List.mem_cons_self),
      ih fun s' hmem => h s' (List.mem_cons_of_mem _ hmem), List.filterMap_cons]
    cases s.meaning? <;> rfl

theorem program_assemble (h : Header) (statements : List Statement)
    (hs : ∀ s ∈ statements, s.Admissible h.bound) :
    Module.program (assemble h statements) = .ok (h, statements.filterMap Statement.meaning?) := by
  have hsplit := split_write statements (fun s hmem => (hs s hmem).length_lt) Header.size
  exact Module.program_eq_ok_iff.2
    ⟨_, _, Header.result_read_toWords h _, hsplit, readAll_frames statements hs⟩

theorem result_ofData_assemble (h : Header) (statements : List Statement)
    (written declared : ByteOrder) :
    (Module.ofData declared.name (.bytes (Word.writeAll written (assemble h statements)))).result =
      (Module.decode (assemble h statements)).result := by
  have hlen : (Word.writeAll written (assemble h statements)).length % 4 = 0 := by
    rw [Word.length_writeAll]
    omega
  have hmagic : (Word.writeAll written (assemble h statements)).take 4 =
      Word.write written Header.magic :=
    List.take_left' (Word.length_write written Header.magic)
  rw [Module.result_ofData_variant hmagic List.mem_cons_self declared, if_pos hlen,
    Word.readAll_writeAll]

/-- Decoding undoes assembling, in whichever orders the bytes are written and read. -/
theorem decode_assemble (h : Header) (statements : List Statement)
    (hs : ∀ s ∈ statements, s.Admissible h.bound) (written declared : ByteOrder) :
    ∃ m, (Module.ofData declared.name
        (.bytes (Word.writeAll written (assemble h statements)))).result = .ok m ∧
      ∀ m' : Module, m'.Projects h (statements.filterMap Statement.meaning?) ↔ m' = m := by
  have hprogram := program_assemble h statements hs
  have hprojects := Module.projects_of_program hprogram
  refine ⟨_, ?_, fun m' => ⟨fun hm' => hm'.unique hprojects, fun he => he ▸ hprojects⟩⟩
  rw [result_ofData_assemble, Module.result_decode, hprogram]
  rfl

/-- A vertex shader with a name that fills its words, and members named and decorated apart. -/
def sampleStatements : List Statement :=
  [.localSize 1 8 4 1 [7], .entryPoint 0 1 "main" [4], .otherMode 1 7 [], .unhandled 17 [1],
    .name 4 "größe", .memberName 3 1 "x", .memberDecorate 3 2 35 [16], .decorate 4 30 [0],
    .declareType 2 (.float 32), .declareType 5 (.int 32 0), .declareConstant 5 6 [3],
    .declareType 7 (.array 2 6), .declareType 3 (.struct [2, 2, 7]), .declareVariable 3 4 1 [],
    .declareType 0 (.image 2 .twoD 0 1 0 2 .rgba32f (some .readWrite))]

def sampleModule : Module where
  header := ⟨0x10000, 0, 8, 0⟩
  ids := ⟨#[
    { type? := some (.image ⟨2, .twoD, false, true, false, false, .rgba32f, some .readWrite⟩) },
    { localSize? := some ⟨8, 4, 1⟩ },
    { type? := some (.float 32) },
    { members := [{}, { name? := some "x" }, { decorations := [⟨.offset, [16]⟩] }]
      type? := some (.struct [2, 2, 7]) },
    { name? := some "größe"
      decorations := [⟨.location, [0]⟩]
      var? := some ⟨3, .input, []⟩ },
    { type? := some (.int 32 false) },
    { const? := some ⟨5, [3]⟩ },
    { type? := some (.array 2 6) }]⟩
  entryPoint? := some ⟨.vertex, 1, "main", [4]⟩

theorem decode_assemble_sample :
    (∀ s ∈ sampleStatements, s.Admissible 8) ∧
    (Module.ofData ByteOrder.little.name (.bytes (Word.writeAll .big
        (assemble ⟨0x10000, 0, 8, 0⟩ sampleStatements)))).result = .ok sampleModule ∧
    sampleModule.Projects ⟨0x10000, 0, 8, 0⟩ (sampleStatements.filterMap Statement.meaning?) := by
  have hs : ∀ s ∈ sampleStatements, s.Admissible 8 := by decide +kernel
  obtain ⟨m, hm, hprojects⟩ := decode_assemble ⟨0x10000, 0, 8, 0⟩ sampleStatements hs .big .little
  have hsample : (Module.decode (assemble ⟨0x10000, 0, 8, 0⟩ sampleStatements)).result =
      .ok sampleModule := by decide +kernel
  rw [result_ofData_assemble, hsample] at hm
  cases hm
  exact ⟨hs, by rw [result_ofData_assemble, hsample], (hprojects _).2 rfl⟩

end Assembly

end ShaderInterface
