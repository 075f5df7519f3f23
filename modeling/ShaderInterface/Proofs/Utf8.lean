import Mathlib.Tactic.SplitIfs
import ShaderInterface.Text.Utf8

namespace ShaderInterface.Utf8

def encode (text : String) : List UInt8 :=
  text.toList.flatMap String.utf8EncodeChar

theorem decodeFrom_some_cons {wanted : Nat} {low high : UInt8} {number x : Nat} (hx : x < 256)
    (hlow : low.toNat ≤ x) (hhigh : x ≤ high.toNat) (rest : List UInt8) :
    decodeFrom (some ⟨wanted, low, high, number⟩) (UInt8.ofNat x :: rest) =
      if wanted ≤ 1 then Char.ofNat (64 * number + (x - 0x80)) :: decodeFrom none rest
      else decodeFrom (some ⟨wanted - 1, 0x80, 0xBF, 64 * number + (x - 0x80)⟩) rest := by
  have hn : (UInt8.ofNat x).toNat = x := UInt8.toNat_ofNat_of_lt hx
  have hrange : low ≤ UInt8.ofNat x ∧ UInt8.ofNat x ≤ high := by
    rw [UInt8.le_iff_toNat_le, UInt8.le_iff_toNat_le, hn]
    exact ⟨hlow, hhigh⟩
  simp only [decodeFrom, step, if_pos hrange, hn]
  split <;> rfl

theorem decodeFrom_none_cons {x : Nat} (hx : x < 256) (rest : List UInt8) :
    decodeFrom none (UInt8.ofNat x :: rest) =
      if x < 0x80 then Char.ofNat x :: decodeFrom none rest
      else if x < 0xC2 then replacement :: decodeFrom none rest
      else if x < 0xE0 then decodeFrom (some ⟨1, 0x80, 0xBF, x - 0xC0⟩) rest
      else if x < 0xF0 then decodeFrom (some ⟨2, if x = 0xE0 then 0xA0 else 0x80,
        if x = 0xED then 0x9F else 0xBF, x - 0xE0⟩) rest
      else if x < 0xF5 then decodeFrom (some ⟨3, if x = 0xF0 then 0x90 else 0x80,
        if x = 0xF4 then 0x8F else 0xBF, x - 0xF0⟩) rest
      else replacement :: decodeFrom none rest := by
  have hn : (UInt8.ofNat x).toNat = x := UInt8.toNat_ofNat_of_lt hx
  simp only [decodeFrom, step, lead, hn]
  split_ifs <;> rfl

theorem decodeFrom_two {v : Nat} (hmin : 0x7F < v) (hmax : v ≤ 0x7FF) (rest : List UInt8) :
    decodeFrom none (UInt8.ofNat (v / 64 % 32 + 0xC0) :: UInt8.ofNat (v % 64 + 0x80) :: rest) =
      Char.ofNat v :: decodeFrom none rest := by
  have hv : 64 * (v / 64 % 32 + 0xC0 - 0xC0) + (v % 64 + 0x80 - 0x80) = v := by omega
  rw [decodeFrom_none_cons (by omega), if_neg (by omega), if_neg (by omega), if_pos (by omega),
    decodeFrom_some_cons (by omega) (by simp) (by simp; omega), if_pos (by simp), hv]

theorem decodeFrom_three {v : Nat} (hmin : 0x7FF < v) (hmax : v ≤ 0xFFFF)
    (hvalid : v < 0xD800 ∨ 0xDFFF < v) (rest : List UInt8) :
    decodeFrom none (UInt8.ofNat (v / 4096 % 16 + 0xE0) :: UInt8.ofNat (v / 64 % 64 + 0x80) ::
      UInt8.ofNat (v % 64 + 0x80) :: rest) = Char.ofNat v :: decodeFrom none rest := by
  have hv : 64 * (64 * (v / 4096 % 16 + 0xE0 - 0xE0) + (v / 64 % 64 + 0x80 - 0x80)) +
      (v % 64 + 0x80 - 0x80) = v := by omega
  rw [decodeFrom_none_cons (by omega), if_neg (by omega), if_neg (by omega), if_neg (by omega),
    if_pos (by omega), decodeFrom_some_cons (by omega) ?low ?high, if_neg (by simp),
    decodeFrom_some_cons (by omega) (by simp) (by simp; omega), if_pos (by simp), hv]
  -- The range of the second byte leaves out overlong forms and surrogates; `v` is neither.
  case low =>
    split_ifs
    · simp only [UInt8.reduceToNat]
      omega
    · exact Nat.le_add_left 128 _
  case high => split_ifs <;> (simp; omega)

theorem decodeFrom_four {v : Nat} (hmin : 0xFFFF < v) (hmax : v < 0x110000) (rest : List UInt8) :
    decodeFrom none (UInt8.ofNat (v / 262144 % 8 + 0xF0) :: UInt8.ofNat (v / 4096 % 64 + 0x80) ::
      UInt8.ofNat (v / 64 % 64 + 0x80) :: UInt8.ofNat (v % 64 + 0x80) :: rest) =
      Char.ofNat v :: decodeFrom none rest := by
  have hv : 64 * (64 * (64 * (v / 262144 % 8 + 0xF0 - 0xF0) + (v / 4096 % 64 + 0x80 - 0x80)) +
      (v / 64 % 64 + 0x80 - 0x80)) + (v % 64 + 0x80 - 0x80) = v := by omega
  rw [decodeFrom_none_cons (by omega), if_neg (by omega), if_neg (by omega), if_neg (by omega),
    if_neg (by omega), if_pos (by omega), decodeFrom_some_cons (by omega) ?low ?high,
    if_neg (by simp), decodeFrom_some_cons (by omega) (by simp) (by simp; omega),
    if_neg (by simp), decodeFrom_some_cons (by omega) (by simp) (by simp; omega),
    if_pos (by simp), hv]
  case low =>
    split_ifs
    · simp only [UInt8.reduceToNat]
      omega
    · exact Nat.le_add_left 128 _
  case high => split_ifs <;> (simp; omega)

theorem decodeFrom_encodeChar (c : Char) (rest : List UInt8) :
    decodeFrom none (String.utf8EncodeChar c ++ rest) = c :: decodeFrom none rest := by
  have hc : Char.ofNat c.val.toNat = c := Char.ofNat_toNat c
  have hvalid : c.val.toNat < 0xD800 ∨ 0xDFFF < c.val.toNat ∧ c.val.toNat < 0x110000 := c.valid
  unfold String.utf8EncodeChar
  generalize c.val.toNat = v at hc hvalid
  rw [← hc]
  dsimp only
  split_ifs with h1 h2 h3
  · exact (decodeFrom_none_cons (by omega) rest).trans (if_pos (by omega))
  · exact decodeFrom_two (by omega) h2 rest
  · exact decodeFrom_three (by omega) h3 (by omega) rest
  · exact decodeFrom_four (by omega) (by omega) rest

theorem decodeFrom_encode (chars : List Char) :
    decodeFrom none (chars.flatMap String.utf8EncodeChar) = chars := by
  induction chars with
  | nil => rfl
  | cons c rest ih => rw [List.flatMap_cons, decodeFrom_encodeChar, ih]

/-- Replacing decoding gives back every text that has been encoded. -/
theorem decode_encode (text : String) : decode (encode text) = text := by
  rw [decode, encode, decodeFrom_encode, String.ofList_toList]

theorem zero_not_mem_encodeChar {c : Char} (h : c ≠ '\x00') : 0 ∉ String.utf8EncodeChar c := by
  have hv : c.val.toNat ≠ 0 := by
    intro hv
    exact h (Char.toNat_inj.1 hv)
  have hlt := c.val.toNat_lt
  unfold String.utf8EncodeChar
  generalize c.val.toNat = v at hv
  dsimp only
  split_ifs <;> simp [← UInt8.toNat_inj] <;> omega

theorem zero_not_mem_encode {text : String} (h : '\x00' ∉ text.toList) : 0 ∉ encode text := by
  rw [encode, List.mem_flatMap]
  rintro ⟨c, hc, hzero⟩
  exact zero_not_mem_encodeChar (fun he => h (he ▸ hc)) hzero

end ShaderInterface.Utf8
