import Mathlib.Data.Nat.Digits.Defs
import ShaderInterface.Proofs.ByteOrder

namespace ShaderInterface

namespace Word

/-- In little-endian order the bytes of a word are its digits to the base 256. -/
theorem ofDigits_write_little (w : UInt32) :
    Nat.ofDigits 256 ((write .little w).map UInt8.toNat) = w.toNat := by
  obtain ⟨a, b, c, d, rfl⟩ := exists_ofBytes w
  rw [write, bytes_ofBytes, toNat_ofBytes]
  simp only [List.map_cons, List.map_nil, Nat.ofDigits_cons, Nat.ofDigits_nil]
  omega

theorem write_swap (order : ByteOrder) (w : UInt32) :
    write order (swap w) = (write order w).reverse := by
  obtain ⟨a, b, c, d, rfl⟩ := exists_ofBytes w
  cases order <;> simp [write, bytes_ofBytes]

theorem readAll_writeAll_of_ne {order other : ByteOrder} (h : order ≠ other)
    (words : List UInt32) : readAll other (writeAll order words) = words.map swap := by
  rw [readAll_of_ne h, readAll_writeAll]

theorem whole_writeAll (order : ByteOrder) (words : List UInt32) :
    (writeAll order words).length % 4 = 0 := by
  rw [length_writeAll, Nat.mul_mod_right]

theorem existsUnique_writeAll (order : ByteOrder) {data : List UInt8} (h : data.length % 4 = 0) :
    ∃! words, writeAll order words = data := by
  refine ⟨readAll order data, writeAll_readAll order data h, ?_⟩
  rintro words rfl
  exact (readAll_writeAll order words).symm

end Word

namespace ModuleData

def ofWords (words : List UInt32) : ModuleData :=
  .words (words.map fun w => (w.toNat : Int))

theorem loadWord_toNat (w : UInt32) : loadWord w.toNat = .ok w := by
  have hlt := w.toNat_lt
  have hrange : (0 : Int) ≤ w.toNat ∧ (w.toNat : Int) < 0x100000000 := by omega
  rw [loadWord, Word.ofInt?, if_pos hrange, Int.toNat_natCast, UInt32.ofNat_toNat]

/-- No byte order is looked at, not even whether there is one of that name. -/
theorem load_ofWords (order : String) (words : List UInt32) :
    (ofWords words).load order = .ok words := by
  show (words.map fun w => (w.toNat : Int)).mapM loadWord = .ok words
  induction words with
  | nil => rfl
  | cons w rest ih =>
    rw [List.map_cons, List.mapM_cons, loadWord_toNat, ih]
    rfl

theorem load_writeAll (order other : ByteOrder) (words : List UInt32) :
    (ModuleData.bytes (Word.writeAll order words)).load other.name =
      .ok (if other = order then words else words.map Word.swap) := by
  rw [load_bytes, loadBytes_of_whole other (Word.whole_writeAll order words)]
  split_ifs with h
  · rw [h, Word.readAll_writeAll]
  · rw [Word.readAll_writeAll_of_ne (Ne.symm h)]

end ModuleData

/-- Bytes are loaded as the words that are written as them, and as no others. -/
theorem loading_inverts_writing :
    (∀ w : UInt32, Nat.ofDigits 256 ((Word.write .little w).map UInt8.toNat) = w.toNat ∧
      Word.write .big w = (Word.write .little w).reverse ∧
      ∀ order, (Word.write order w).length = 4 ∧
        Word.write order (Word.swap w) = (Word.write order w).reverse) ∧
    (∀ (order other : ByteOrder) (words : List UInt32),
      (ModuleData.bytes (Word.writeAll order words)).load other.name =
        .ok (if other = order then words else words.map Word.swap)) ∧
    (∀ words : List UInt32, (words.map Word.swap).map Word.swap = words) ∧
    (∀ (order : ByteOrder) (data : List UInt8),
      if data.length % 4 = 0 then ∃! words, Word.writeAll order words = data
      else (ModuleData.bytes data).load order.name = .error (.partialWord data.length) ∧
        (Fault.partialWord data.length).category = .malformed) ∧
    ∀ (order : ByteOrder) (anyOrder : String) (words : List UInt32),
      Module.ofData anyOrder (.ofWords words) =
        Module.ofData order.name (.bytes (Word.writeAll order words)) ∧
      ∀ limit, reflect anyOrder limit (.ofWords words) =
        reflect order.name limit (.bytes (Word.writeAll order words)) := by
  refine ⟨fun w => ?_, ModuleData.load_writeAll, Word.map_swap_map_swap, ?_, ?_⟩
  · exact ⟨Word.ofDigits_write_little w, rfl, fun order =>
      ⟨Word.length_write order w, Word.write_swap order w⟩⟩
  · intro order data
    split_ifs with h
    · exact Word.existsUnique_writeAll order h
    · exact ⟨ModuleData.load_partial h order, rfl⟩
  · intro order anyOrder words
    have hload : (ModuleData.ofWords words).load anyOrder =
        (ModuleData.bytes (Word.writeAll order words)).load order.name := by
      rw [ModuleData.load_ofWords, ModuleData.load_writeAll, if_pos rfl]
    exact ⟨by rw [Module.ofData, Module.ofData, hload], fun limit => by
      rw [reflect, reflect, hload]⟩

end ShaderInterface
