import ShaderInterface.Proofs.Scans

namespace ShaderInterface

/-- Whatever the outcome is, it is not that an id led out of the table. -/
def StaysInside {α : Type} (x : Except Fault α) : Prop :=
  ∀ id size, x ≠ .error (.idOutOfBounds id size)

theorem Settles.staysInside {α : Type} {x : Except Fault α} {post : α → Prop}
    (h : Settles x post (·.isDangling = false)) : StaysInside x := by
  intro id size hx
  cases h.of_eq_error hx

theorem Settles.notDangling {α : Type} {x : Except Fault α} {post : α → Prop}
    (h : Settles x post Fault.Inside) : Settles x post (·.isDangling = false) :=
  h.mono (fun _ hpost => hpost) fun _ hfault => hfault.2

theorem IdTable.staysInside_typeOf_bind {α : Type} {t : IdTable} (ht : t.Closed) {id : Nat}
    (hid : id < t.size) {walk : TypeDecl → Except Fault α}
    (hwalk : ∀ type : TypeDecl, type.Within t.size →
      Settles (walk type) (fun _ => True) (·.isDangling = false)) :
    StaysInside (t.typeOf id >>= walk) :=
  ((settles_typeOf ht hid (by rfl)).bind hwalk).staysInside

namespace Module

/-- No id that the module holds leads out of its table. -/
structure RefersInside (m : Module) : Prop where
  size_ids : m.ids.size = m.header.bound.toNat
  entries : ∀ (k : Nat) (e : Entry), m.ids.get? k = some e → e.Within m.header.bound.toNat
  entryPoint : ∀ point, m.entryPoint? = some point →
    ∀ id ∈ point.function :: point.interfaceIds, id < m.header.bound
  localSizes : ∀ (k : Nat) (e : Entry), m.ids.get? k = some e → e.localSize?.isSome →
    k < m.header.bound.toNat

theorem refersInside_build {h : Header} {is : List Instruction}
    (hwithin : Instruction.AllWithin h.bound.toNat is) : (build h is).RefersInside where
  size_ids := by rw [size_ids_build, build_header]
  entries k e he := by
    rw [build_header, ← size_ids_build h is]
    exact closed_ids_build hwithin k e he
  entryPoint point hpoint := by
    rw [entryPoint?_build] at hpoint
    obtain ⟨i, hi, hask⟩ := Instruction.exists_mem_of_last hpoint
    have hids := hwithin.ids_lt i hi
    rw [Instruction.eq_of_entryPoint? hask] at hids
    intro id hid
    rw [build_header]
    exact UInt32.lt_iff_toNat_lt.2 (hids id hid)
  localSizes k e he _ := by
    rw [build_header, ← size_ids_build h is]
    exact IdTable.lt_size_of_get? he

/-- No id that a module holds leads out of its table, and neither does any walk or scan. -/
theorem decode_refersInside {words : List UInt32} {m : Module}
    (h : (decode words).result = .ok m) :
    (∃ is, program words = .ok (m.header, is) ∧ m = build m.header is ∧
      ∀ i ∈ is, ∀ id ∈ i.ids, id < m.header.bound) ∧
    m.RefersInside ∧
    ∀ limit : Int,
      (∀ id < m.header.bound.toNat,
        StaysInside (m.ids.typeOf id >>= m.ids.sizeOf limit) ∧
        StaysInside (m.ids.typeOf id >>= m.ids.shaderTypeOf limit) ∧
        StaysInside (m.ids.typeOf id >>= m.ids.layoutOf limit) ∧
        StaysInside (m.ids.arrayLength id)) ∧
      StaysInside (m.ids.inputLayout limit).result ∧
      ∀ model : ExecutionModel,
        StaysInside (m.ids.inputs limit model).result ∧
        StaysInside (m.ids.outputs limit model).result ∧
        StaysInside (m.ids.uniforms limit model).result ∧
        StaysInside (m.ids.uniformBlocks limit model).result := by
  obtain ⟨is, hprogram, hbuild⟩ := exists_program_of_decode h
  have hwithin := allWithin_of_program hprogram
  have hrefers : m.RefersInside := by
    rw [hbuild]
    exact refersInside_build hwithin
  have hclosed : m.ids.Closed := closed_ids_of_decode h
  refine ⟨⟨is, hprogram, hbuild, ?_⟩, hrefers, fun limit => ⟨?_, ?_, fun model => ?_⟩⟩
  · intro i hi id hid
    exact UInt32.lt_iff_toNat_lt.2 (hwithin.ids_lt i hi id hid)
  · intro id hid
    rw [← hrefers.size_ids] at hid
    refine ⟨?_, ?_, ?_, ?_⟩
    · exact IdTable.staysInside_typeOf_bind hclosed hid fun type htype =>
        (IdTable.settles_sizeWithin hclosed limit _ htype).notDangling
    · exact IdTable.staysInside_typeOf_bind hclosed hid fun type htype =>
        (IdTable.settles_shaderTypeWithin hclosed limit _ htype).notDangling
    · exact IdTable.staysInside_typeOf_bind hclosed hid fun type htype =>
        IdTable.settles_layoutWithin hclosed limit _ htype
    · exact Settles.staysInside (IdTable.settles_arrayLength hid (by rfl))
  · exact (IdTable.settles_inputLayout hclosed limit).staysInside
  · refine ⟨?_, ?_, ?_, ?_⟩
    · exact (IdTable.settles_located hclosed limit model .input).notDangling.staysInside
    · exact (IdTable.settles_located hclosed limit model .output).notDangling.staysInside
    · exact (IdTable.settles_uniforms hclosed limit model).notDangling.staysInside
    · exact (IdTable.settles_uniformBlocks hclosed limit model).notDangling.staysInside

/-- A pointer to itself, an array of such pointers whose length is no constant, and an input that
is one of them. -/
def cyclicWords : List UInt32 :=
  [Header.magic, 0x10000, 0, 5, 0,
   0x40020, 1, 1, 1,
   0x4001c, 2, 1, 3,
   0x4003b, 1, 4, 1,
   0x40047, 4, 30, 0]

def cyclicModule : Module where
  header := ⟨0x10000, 0, 5, 0⟩
  ids := ⟨#[{}, { type? := some (.pointer .input 1) }, { type? := some (.array 1 3) }, {},
    { decorations := [⟨.location, [0]⟩], var? := some ⟨1, .input, []⟩ }]⟩
  entryPoint? := none

theorem decode_refersInside_cyclic :
    (decode cyclicWords).result = .ok cyclicModule ∧ cyclicModule.RefersInside ∧
    2 < cyclicModule.header.bound.toNat ∧
    StaysInside (cyclicModule.ids.typeOf 2 >>= cyclicModule.ids.sizeOf 64) ∧
    StaysInside (cyclicModule.ids.inputs 64 .unknown).result := by
  have hdecode : (decode cyclicWords).result = .ok cyclicModule := by decide +kernel
  have hid : 2 < cyclicModule.header.bound.toNat := by decide
  obtain ⟨-, hrefers, hwalks⟩ := decode_refersInside hdecode
  exact ⟨hdecode, hrefers, hid, ((hwalks 64).1 2 hid).1, ((hwalks 64).2.2 .unknown).1⟩

end Module

end ShaderInterface
