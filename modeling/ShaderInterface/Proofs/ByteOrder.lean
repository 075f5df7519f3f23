import Mathlib.Data.List.Basic
import Mathlib.Tactic.SplitIfs
import ShaderInterface.Interface.Reflection
import ShaderInterface.Proofs.HeaderOrder
import ShaderInterface.Proofs.Program

namespace ShaderInterface

theorem ByteOrder.ofName?_name (order : ByteOrder) : ofName? order.name = some order := by
  cases order <;> decide

namespace Header

/-- Without the magic number there is no header, however the words are turned. -/
theorem result_read_of_not_marked {words : List UInt32} (h : ¬ Marked words) :
    ∃ fault, (read words).result = .error fault := by
  match words with
  | first :: version :: generator :: bound :: schema :: body =>
    have hmagic : first ≠ magic := fun he => h (.inl (congrArg some he))
    have hswapped : first ≠ Word.swap magic := fun he => h (.inr (congrArg some he))
    exact ⟨.badMagic first, by rw [read, if_neg hmagic, if_neg hswapped, Traced.result_fail]⟩
  | [] | [_] | [_, _] | [_, _, _] | [_, _, _, _] => exact ⟨_, rfl⟩

theorem marked_map_swap_iff (words : List UInt32) :
    Marked (words.map Word.swap) ↔ Marked words := by
  have hswap : ∀ v w : UInt32, Word.swap v = w ↔ v = Word.swap w := by
    intro v w
    constructor
    · rintro rfl
      rw [Word.swap_swap]
    · rintro rfl
      rw [Word.swap_swap]
  cases words with
  | nil => exact Iff.rfl
  | cons first rest =>
    simp only [Marked, List.map_cons, List.head?_cons, Option.some.injEq, hswap, Word.swap_swap]
    exact or_comm

end Header

namespace ModuleData

theorem load_bytes (order : ByteOrder) (data : List UInt8) :
    (ModuleData.bytes data).load order.name = loadBytes order data := by
  simp only [load, ByteOrder.ofName?_name]

theorem loadBytes_of_whole (order : ByteOrder) {data : List UInt8} (h : data.length % 4 = 0) :
    loadBytes order data = .ok (Word.readAll order data) := by
  rw [loadBytes, if_pos h]

theorem readAll_eq_or (order other : ByteOrder) (data : List UInt8) :
    Word.readAll other data = Word.readAll order data ∨
      Word.readAll other data = (Word.readAll order data).map Word.swap := by
  by_cases h : order = other
  · left
    rw [h]
  · right
    exact Word.readAll_of_ne h data

end ModuleData

namespace Module

def ofData (order : String) (data : ModuleData) : Traced Module := do
  decode (← data.load order)

theorem result_ofData (order : String) (data : ModuleData) :
    (ofData order data).result = (data.load order).bind fun words => (decode words).result := by
  rw [ofData, Traced.result_bind]
  rfl

theorem result_decode_map_swap {words : List UInt32} (h : Header.Marked words) :
    (decode (words.map Word.swap)).result = (decode words).result := by
  rw [result_decode, result_decode, program, program, Header.result_read_map_swap h]

theorem result_decode_of_not_marked {words : List UInt32} (h : ¬ Header.Marked words) :
    ∃ fault, (decode words).result = .error fault := by
  obtain ⟨fault, hfault⟩ := Header.result_read_of_not_marked h
  exact ⟨fault, by rw [result_decode, program, hfault]; rfl⟩

end Module

theorem result_reflect (order : String) (limit : Int) (data : ModuleData) :
    (reflect order limit data).result =
      (Module.ofData order data).result.bind fun m => (m.reflect limit).result := by
  rw [Module.result_ofData, reflect, Traced.result_bind]
  change (data.load order).bind _ = _
  cases data.load order with
  | error fault => rfl
  | ok words =>
    simp only [Except.bind]
    rw [Traced.result_bind]
    rfl

theorem Word.readAll_of_take_eq {spelled : ByteOrder} {w : UInt32} {data : List UInt8}
    (h : data.take 4 = write spelled w) :
    readAll spelled data = w :: readAll spelled (data.drop 4) := by
  rw [← List.take_append_drop 4 data, h, readAll_write_append, ← h, List.take_append_drop]

namespace ModuleData

theorem load_variant {data : List UInt8} (h : data.length % 4 = 0) (spelled order : ByteOrder)
    {x : List UInt8} (hx : x ∈ [data, Word.reverseGroups data]) :
    ∃ words, (ModuleData.bytes x).load order.name = .ok words ∧
      (words = Word.readAll spelled data ∨ words = (Word.readAll spelled data).map Word.swap) := by
  refine ⟨Word.readAll order x, ?_, ?_⟩
  · have hlen : x.length % 4 = 0 := by
      rcases List.mem_pair.1 hx with rfl | rfl
      · exact h
      · rw [Word.length_reverseGroups, h]
    rw [load_bytes, loadBytes_of_whole order hlen]
  · rcases List.mem_pair.1 hx with rfl | rfl
    · exact readAll_eq_or spelled order x
    · rw [Word.readAll_reverseGroups]
      rcases readAll_eq_or spelled order data with he | he
      · right
        rw [he]
      · left
        rw [he, Word.map_swap_map_swap]

theorem load_partial {data : List UInt8} (h : data.length % 4 ≠ 0) (order : ByteOrder) :
    (ModuleData.bytes data).load order.name = .error (.partialWord data.length) := by
  rw [load_bytes, loadBytes, if_neg h]

end ModuleData

namespace Module

theorem result_decode_variant {words variant : List UInt32} (h : Header.Marked words)
    (hv : variant = words ∨ variant = words.map Word.swap) :
    (decode variant).result = (decode words).result := by
  rcases hv with rfl | rfl
  · rfl
  · exact result_decode_map_swap h

/-- The outcome is that of the words in the order in which the magic number is spelled. -/
theorem result_ofData_variant {data : List UInt8} {spelled : ByteOrder}
    (hmagic : data.take 4 = Word.write spelled Header.magic) {x : List UInt8}
    (hx : x ∈ [data, Word.reverseGroups data]) (order : ByteOrder) :
    (ofData order.name (.bytes x)).result =
      if data.length % 4 = 0 then (decode (Word.readAll spelled data)).result
      else .error (.partialWord data.length) := by
  rw [result_ofData]
  split_ifs with h
  · obtain ⟨words, hload, hwords⟩ := ModuleData.load_variant h spelled order hx
    have hmarked : Header.Marked (Word.readAll spelled data) := by
      rw [Word.readAll_of_take_eq hmagic]
      exact .inl rfl
    -- Decoding turns the words once more where the declared order was the wrong one.
    rw [hload]
    exact result_decode_variant hmarked hwords
  · have hlen : x.length = data.length := by
      rcases List.mem_pair.1 hx with rfl | rfl
      · rfl
      · exact Word.length_reverseGroups data
    rw [ModuleData.load_partial (hlen ▸ h), hlen]
    rfl

theorem toWords_header {words : List UInt32} (hmagic : words.head? = some Header.magic)
    {m : Module} (h : (decode words).result = .ok m) : m.header.toWords = words.take 5 := by
  obtain ⟨instructions, hprogram, -⟩ := exists_program_of_decode h
  obtain ⟨body, frames, hheader, -⟩ := program_eq_ok_iff.1 hprogram
  match words with
  | first :: version :: generator :: bound :: schema :: rest =>
    cases hmagic
    rw [Header.result_read_magic] at hheader
    have hm := congrArg Prod.fst (Except.ok.inj hheader)
    dsimp only at hm
    rw [← hm]
    rfl
  | [] | [_] | [_, _] | [_, _, _] | [_, _, _, _] => cases hheader

end Module

/-- Whether there is an outcome at all, and which, does not depend on the order in which any byte
string is read. -/
theorem toOption_reflect (order order' : ByteOrder) (limit : Int) (data : List UInt8) :
    (reflect order.name limit (.bytes data)).result.toOption =
      (reflect order'.name limit (.bytes data)).result.toOption := by
  rw [result_reflect, result_reflect, Module.result_ofData, Module.result_ofData]
  by_cases h : data.length % 4 = 0
  · rw [ModuleData.load_bytes, ModuleData.load_bytes, ModuleData.loadBytes_of_whole order h,
      ModuleData.loadBytes_of_whole order' h]
    simp only [Except.bind]
    by_cases hmarked : Header.Marked (Word.readAll order data)
    · rw [Module.result_decode_variant hmarked (ModuleData.readAll_eq_or order order' data)]
    -- Both readings fail, each with a message about its own first word.
    · have hmarked' : ¬ Header.Marked (Word.readAll order' data) := by
        rcases ModuleData.readAll_eq_or order order' data with he | he
        · rwa [he]
        · rwa [he, Header.marked_map_swap_iff]
      obtain ⟨fault, hfault⟩ := Module.result_decode_of_not_marked hmarked
      obtain ⟨fault', hfault'⟩ := Module.result_decode_of_not_marked hmarked'
      rw [hfault, hfault']
      rfl
  · rw [ModuleData.load_partial h, ModuleData.load_partial h]

end ShaderInterface
