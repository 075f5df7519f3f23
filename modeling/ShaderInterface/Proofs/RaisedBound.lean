import ShaderInterface.Proofs.ByteOrder
import ShaderInterface.Proofs.ComposedReadings
import ShaderInterface.Proofs.InstructionOrder
import ShaderInterface.Proofs.OperandRuns
import ShaderInterface.Proofs.TableExtension
import ShaderInterface.Proofs.UnhandledInstructions

namespace ShaderInterface

def Cursor.withBound (c : Cursor) (bound : Int) : Cursor :=
  { c with bound := bound }

namespace Operand

def Widens {α : Type} (read : Operand α) : Prop :=
  ∀ (c : Cursor) (bound : Int) (a : α), c.bound ≤ bound → (read c).1 = .ok a →
    (read c).2.bound = c.bound ∧ read (c.withBound bound) = (.ok a, (read c).2.withBound bound)

theorem widens_word : Widens word := by
  rintro ⟨opcode, bound, position, words⟩ bound' a - ha
  cases words with
  | nil => cases ha
  | cons w rest =>
    cases ha
    exact ⟨rfl, rfl⟩

theorem Widens.check {α β : Type} {read : Operand α} {judge : Cursor → α → Except Fault β}
    (h : Widens read) (hjudge : ∀ (c : Cursor) (bound : Int) (a : α) (b : β), c.bound ≤ bound →
      judge c a = .ok b → judge (c.withBound bound) a = .ok b) : Widens (check read judge) := by
  intro c bound b hbound hb
  obtain ⟨a, ha, hb⟩ : ∃ a, (read c).1 = .ok a ∧ judge c a = .ok b := bind_eq_ok_iff.1 hb
  obtain ⟨hkept, hread⟩ := h c bound a hbound ha
  refine ⟨hkept, ?_⟩
  rw [Operand.check, hread]
  exact congrArg (·, _) (hjudge c bound a b hbound hb)

theorem widens_id : Widens id := by
  refine widens_word.check fun c bound a b hbound hb => ?_
  rw [judgeId] at hb
  split_ifs at hb with hlt
  have hlt' : (a.toNat : Int) < (c.withBound bound).bound := Int.lt_of_lt_of_le hlt hbound
  rw [judgeId, if_pos hlt', hb]

theorem forall_lt_of_ids {c : Cursor} {found : List UInt32} (h : (ids c).1 = .ok found) :
    ∀ id ∈ c.rest, (id.toNat : Int) < c.bound := by
  simp only [ids] at h
  split at h
  · next hall =>
    have hgood := (List.takeWhile_prefix _).eq_of_length_le (List.drop_eq_nil_iff.1 hall)
    exact fun id hid => of_decide_eq_true (List.takeWhile_eq_self_iff.1 hgood id hid)
  · cases h

theorem widens_ids : Widens ids := by
  intro c bound found hbound hfound
  have hlt := forall_lt_of_ids hfound
  have hlt' : ∀ id ∈ (c.withBound bound).rest, (id.toNat : Int) < (c.withBound bound).bound :=
    fun id hid => Int.lt_of_lt_of_le (hlt id hid) hbound
  rw [ids_of_forall_lt hlt] at hfound ⊢
  rw [ids_of_forall_lt hlt']
  cases hfound
  exact ⟨rfl, rfl⟩

end Operand

namespace Reading

variable {α β : Type}

/-- What is read under a bound is read under a greater one as well, up to the same place. -/
def Widens (read : Reading α) : Prop :=
  ∀ (c : Cursor) (bound : Int) (a : α) (c' : Cursor), c.bound ≤ bound →
    (read c).result = .ok (a, c') →
      c'.bound = c.bound ∧ (read (c.withBound bound)).result = .ok (a, c'.withBound bound)

namespace Widens

theorem pure (a : α) : Widens (Pure.pure a) := by
  intro c bound b c' _ h
  cases h
  exact ⟨rfl, rfl⟩

theorem bind {read : Reading α} {next : α → Reading β} (h : Widens read)
    (hnext : ∀ a, Widens (next a)) : Widens (read >>= next) := by
  intro c bound b c' hbound hresult
  obtain ⟨⟨a, middle⟩, hread, hrest⟩ := Traced.result_bind_eq_ok.1 hresult
  obtain ⟨hkept, hwide⟩ := h c bound a middle hbound hread
  obtain ⟨hkept', hwide'⟩ := hnext a middle bound b c' (hkept ▸ hbound) hrest
  exact ⟨hkept'.trans hkept, Traced.result_bind_eq_ok.2 ⟨_, hwide, hwide'⟩⟩

theorem lift (x : Traced α) : Widens (liftM x : Reading α) := by
  intro c bound a c' _ hresult
  obtain ⟨b, hb, hpure⟩ := Traced.result_bind_eq_ok.1 hresult
  cases hpure
  exact ⟨rfl, Traced.result_bind_eq_ok.2 ⟨a, hb, rfl⟩⟩

theorem take {read : Operand α} (h : read.Widens) : Widens (Reading.take read) := by
  intro c bound a c' hbound hresult
  rw [Reading.take] at hresult ⊢
  split at hresult
  · next b behind hread =>
    cases hresult
    obtain ⟨hkept, hwide⟩ := h c bound a hbound (by rw [hread])
    rw [hwide]
    rw [hread] at hkept ⊢
    exact ⟨hkept, rfl⟩
  · cases hresult

end Widens

/-- The operands of no instruction are refused because the bound is too great. -/
theorem Composed.widens {read : Reading α} (h : Composed read) : Widens read := by
  induction h with
  | pure a => exact .pure a
  | bind _ _ ih ihnext => exact ih.bind ihnext
  | lift => exact .lift _
  | word => exact .take Operand.widens_word
  | flag => exact .take (Operand.widens_word.check fun _ _ _ _ _ hb => hb)
  | id => exact .take Operand.widens_id
  | member => exact .take (Operand.widens_word.check fun _ _ _ _ _ hb => hb)
  | ids => exact .take Operand.widens_ids
  | literals => exact .take fun _ _ _ _ ha => by cases ha; exact ⟨rfl, rfl⟩
  | text => exact .take fun _ _ _ _ ha => by cases ha; exact ⟨rfl, rfl⟩
  | hasRemaining =>
    intro c bound a c' _ h
    cases h
    exact ⟨rfl, rfl⟩

end Reading

namespace Frame

variable {bound bound' : Nat}

theorem read_of_le (hbound : bound ≤ bound') {f : Frame} {i? : Option Instruction}
    (h : f.read bound = .ok i?) : f.read bound' = .ok i? := by
  cases hreading : f.reading? with
  | none =>
    rw [read_of_reading?_eq_none hreading] at h ⊢
    exact h
  | some reading =>
    obtain ⟨opcode, -, hread⟩ := Option.bind_eq_some_iff.1 hreading
    rw [read_of_reading?_eq_some hreading] at h ⊢
    obtain ⟨⟨i, behind⟩, hresult, hi⟩ := exists_of_map_eq_ok h
    have hle : (f.cursor bound).bound ≤ bound' := Int.ofNat_le.2 hbound
    have hwide := (Instruction.composed_reading hread).widens _ _ _ _ hle hresult
    have hcursor : (f.cursor bound).withBound bound' = f.cursor bound' := rfl
    rw [hcursor] at hwide
    rw [hwide.2, ← hi]
    rfl

theorem readAll_of_le (hbound : bound ≤ bound') {frames : List Frame} {is : List Instruction}
    (h : readAll bound frames = .ok is) : readAll bound' frames = .ok is := by
  induction frames generalizing is with
  | nil => exact h
  | cons f rest ih =>
    obtain ⟨i?, others, hread, hothers, rfl⟩ := exists_of_readAll_cons h
    rw [readAll, read_of_le hbound hread, ih hothers]
    rfl

end Frame

namespace Header

/-- The words with another bound, in the byte order that their magic number tells. -/
def setBound (bound : UInt32) (words : List UInt32) : List UInt32 :=
  words.set 3 (if words.head? = some magic then bound else Word.swap bound)

theorem result_read_setBound {words body : List UInt32} {h : Header}
    (hread : (read words).result = .ok (h, body)) (bound : UInt32) :
    (read (setBound bound words)).result = .ok ({ h with bound := bound }, body) := by
  match words with
  | first :: version :: generator :: bound' :: schema :: rest =>
    by_cases hmagic : first = magic
    · cases hmagic
      rw [result_read_magic] at hread
      cases hread
      exact result_read_magic version generator bound schema body
    · have hset : setBound bound (first :: version :: generator :: bound' :: schema :: rest) =
          first :: version :: generator :: Word.swap bound :: schema :: rest := by
        rw [setBound, List.head?_cons, if_neg fun he => hmagic (Option.some.inj he)]
        rfl
      rw [hset]
      by_cases hswapped : first = Word.swap magic
      · cases hswapped
        rw [result_read_swapped] at hread ⊢
        cases hread
        rw [Word.swap_swap]
      · rw [read, if_neg hmagic, if_neg hswapped] at hread
        cases hread
  | [] | [_] | [_, _] | [_, _, _] | [_, _, _, _] => cases hread

end Header

theorem Entry.project_eq_blank {is : List Instruction} {k : UInt32}
    (h : ∀ i ∈ is, i.target? ≠ some k) : project is k = {} := by
  induction is using List.reverseRecOn with
  | nil => rfl
  | append_singleton is i ih =>
    obtain ⟨his, hi⟩ := List.forall_mem_append.1 h
    rw [project_concat, ih his, tell_of_target?_ne (hi i List.mem_cons_self)]

namespace Module

theorem program_setBound {words : List UInt32} {h : Header} {is : List Instruction}
    (hprogram : program words = .ok (h, is)) {bound : UInt32} (hbound : h.bound ≤ bound) :
    program (Header.setBound bound words) = .ok ({ h with bound := bound }, is) := by
  obtain ⟨body, frames, hheader, hsplit, hread⟩ := program_eq_ok_iff.1 hprogram
  refine program_eq_ok_iff.2 ⟨body, frames, Header.result_read_setBound hheader bound, hsplit, ?_⟩
  exact Frame.readAll_of_le (UInt32.le_iff_toNat_le.1 hbound) hread

/-- Room for further ids is all that a greater bound adds. -/
theorem ids_build_setBound {h : Header} {is : List Instruction} {bound : UInt32}
    (hwithin : Instruction.AllWithin h.bound.toNat is) (hbound : h.bound ≤ bound) :
    (build { h with bound := bound } is).ids =
      (build h is).ids.extend (bound.toNat - h.bound.toNat) := by
  have hle : h.bound.toNat ≤ bound.toNat := UInt32.le_iff_toNat_le.1 hbound
  have hsize : (build h is).ids.size = h.bound.toNat := size_ids_build h is
  have hsize' : (build { h with bound := bound } is).ids.size = bound.toNat := size_ids_build _ is
  apply IdTable.ext_get?
  · rw [hsize', IdTable.size_extend, hsize]
    omega
  · intro n hn
    rw [hsize'] at hn
    rw [get?_build_of_lt hn]
    by_cases hlt : n < h.bound.toNat
    · rw [IdTable.get?_extend_of_lt (by rwa [hsize]), get?_build_of_lt hlt]
    -- The instructions were read under the smaller bound, so none is about such an id.
    · have huntold : ∀ i ∈ is, i.target? ≠ some (UInt32.ofNat n) := by
        intro i hi htarget
        have hid := hwithin.ids_lt i hi _ (Instruction.mem_ids_of_target? htarget)
        rw [UInt32.toNat_ofNat_of_lt' (Nat.lt_trans hn bound.toNat_lt)] at hid
        exact hlt hid
      rw [IdTable.get?_extend_of_le (by omega) (by omega), Entry.project_eq_blank huntold]

end Module

theorem IdTable.bind_localSize?_extend (t : IdTable) (n k : Nat) :
    ((t.extend n).get? k).bind (·.localSize?) = (t.get? k).bind (·.localSize?) := by
  by_cases hk : k < t.size
  · rw [get?_extend_of_lt hk]
  · have hold : t.get? k = none := by
      rw [get?_natCast]
      exact Array.getElem?_eq_none (Nat.not_lt.1 hk)
    rw [hold]
    by_cases hn : k < t.size + n
    · rw [get?_extend_of_le (Nat.not_lt.1 hk) hn]
      rfl
    · have hnew : (t.extend n).get? k = none := by
        rw [get?_natCast]
        exact Array.getElem?_eq_none (by rw [← size, size_extend]; omega)
      rw [hnew]

/-- A greater bound changes nothing but the room that it leaves. -/
theorem raised_bound_harmless {words : List UInt32} {m : Module} {bound : UInt32}
    (h : (Module.decode words).result = .ok m) (hbound : m.header.bound ≤ bound) :
    ∃ m', (Module.decode (Header.setBound bound words)).result = .ok m' ∧
      m'.header = { m.header with bound := bound } ∧
      m'.ids.size = bound.toNat ∧
      (∀ id : UInt32, id < m.header.bound → m'.ids.get? id.toNat = m.ids.get? id.toNat) ∧
      (∀ id : UInt32, m.header.bound ≤ id → id < bound → m'.ids.get? id.toNat = some {}) ∧
      m'.entryPoint? = m.entryPoint? ∧
      (∀ id : UInt32, (m'.ids.get? id.toNat).bind (·.localSize?) =
        (m.ids.get? id.toNat).bind (·.localSize?)) ∧
      m'.localSize? = m.localSize? ∧
      ∀ limit : Int,
        (∀ (order order' : String) (data data' : ModuleData), data.load order = .ok words →
          data'.load order' = .ok (Header.setBound bound words) →
          (reflect order' limit data').result =
            (reflect order limit data).result.map fun r => { r with source := m' }) ∧
        m'.ids.inputLayout limit = m.ids.inputLayout limit := by
  obtain ⟨is, hprogram, hbuild⟩ := Module.exists_program_of_decode h
  have hwithin := Module.allWithin_of_program hprogram
  have hclosed : m.ids.Closed := Module.closed_ids_of_decode h
  have hsize : m.ids.size = m.header.bound.toNat := by
    rw [hbuild, Module.size_ids_build, Module.build_header]
  have hle : m.header.bound.toNat ≤ bound.toNat := UInt32.le_iff_toNat_le.1 hbound
  obtain ⟨m', hm'⟩ : ∃ m', m' = Module.build { m.header with bound := bound } is := ⟨_, rfl⟩
  have hdecode : (Module.decode (Header.setBound bound words)).result = .ok m' := by
    rw [Module.result_decode, Module.program_setBound hprogram hbound, hm']
    rfl
  have hids : m'.ids = m.ids.extend (bound.toNat - m.header.bound.toNat) := by
    have hbuilt := Module.ids_build_setBound hwithin hbound
    rwa [← hbuild, ← hm'] at hbuilt
  have hpoint : m'.entryPoint? = m.entryPoint? := by
    rw [hm', hbuild, Module.entryPoint?_build, Module.entryPoint?_build]
  have hlocal : ∀ k : Nat, (m'.ids.get? k).bind (·.localSize?) =
      (m.ids.get? k).bind (·.localSize?) := by
    intro k
    rw [hids, IdTable.bind_localSize?_extend]
  refine ⟨m', hdecode, by rw [hm', Module.build_header], ?_, fun id hid => ?_,
    fun id hid hid' => ?_, hpoint, fun id => hlocal _, ?_, fun limit => ⟨?_, ?_⟩⟩
  · rw [hids, IdTable.size_extend, hsize]
    omega
  · rw [hids, IdTable.get?_extend_of_lt (by rwa [hsize, ← UInt32.lt_iff_toNat_lt])]
  · have hold : m.ids.size ≤ id.toNat := by rwa [hsize, ← UInt32.le_iff_toNat_le]
    have hnew : id.toNat < bound.toNat := UInt32.lt_iff_toNat_lt.1 hid'
    rw [hids, IdTable.get?_extend_of_le hold (by omega)]
  · rw [Module.localSize?, Module.localSize?, Module.entryPoint, Module.entryPoint, hpoint, hlocal]
  · intro order order' data data' hload hload'
    rw [result_reflect_of_load hload, result_reflect_of_load hload', h, hdecode]
    show (m'.reflect limit).result = (m.reflect limit).result.map _
    rw [Module.reflect_extend hclosed hids hpoint, map_eq_pure_bind, Traced.result_bind]
    rfl
  · rw [hids, IdTable.inputLayout_extend hclosed]

def swappedInputWords : List UInt32 :=
  [Header.magic, 0x10000, 0, 4, 0,
   0x30016, 1, 32,
   0x40020, 2, 1, 1,
   0x4003b, 2, 3, 1,
   0x40047, 3, 30, 0].map Word.swap

def swappedInputModule : Module where
  header := ⟨0x10000, 0, 4, 0⟩
  ids := ⟨#[{}, { type? := some (.float 32) }, { type? := some (.pointer .input 1) },
    { decorations := [⟨.location, [0]⟩], var? := some ⟨2, .input, []⟩ }]⟩
  entryPoint? := none

/-- The bound word 4 becomes 9, its bytes turned as those of the other words are. -/
theorem raised_bound_harmless_swapped :
    (Header.setBound 9 swappedInputWords)[3]? = some 0x9000000 ∧
    (Module.decode swappedInputWords).result = .ok swappedInputModule ∧
    swappedInputModule.header.bound ≤ 9 ∧
    (∃ f, (swappedInputModule.ids.inputLayout 0).result = .error f) ∧
    ∃ m', (Module.decode (Header.setBound 9 swappedInputWords)).result = .ok m' ∧
      m'.ids.get? 8 = some {} ∧
      (reflect "little" 1 (.words ((Header.setBound 9 swappedInputWords).map (·.toNat)))).result =
        (reflect "little" 1 (.words (swappedInputWords.map (·.toNat)))).result.map
          (fun r => { r with source := m' }) ∧
      m'.ids.inputLayout 0 = swappedInputModule.ids.inputLayout 0 ∧
      m'.ids.inputLayout 1 = swappedInputModule.ids.inputLayout 1 := by
  have hdecode : (Module.decode swappedInputWords).result = .ok swappedInputModule := by
    decide +kernel
  have hbound : swappedInputModule.header.bound ≤ 9 := by decide
  obtain ⟨m', hdecode', -, -, -, hblank, -, -, -, hsame⟩ := raised_bound_harmless hdecode hbound
  have hlayout : (swappedInputModule.ids.inputLayout 0).result = .error (.typesTooDeep 0) := by
    decide +kernel
  have hreflect := (hsame 1).1 "little" "little" (.words (swappedInputWords.map (·.toNat)))
    (.words ((Header.setBound 9 swappedInputWords).map (·.toNat))) (by decide) (by decide)
  exact ⟨by decide, hdecode, hbound, ⟨_, hlayout⟩, m', hdecode', hblank 8 (by decide) (by decide),
    hreflect, (hsame 0).2, (hsame 1).2⟩

end ShaderInterface
