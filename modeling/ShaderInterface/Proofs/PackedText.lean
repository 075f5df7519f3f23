import ShaderInterface.Instruction.Cursor
import ShaderInterface.Proofs.Utf8
import ShaderInterface.Proofs.WordBytes

namespace ShaderInterface.Utf8

/-- Whole words only, filled up with zero bytes. -/
def pad (data : List UInt8) : List UInt8 :=
  data ++ List.replicate ((4 - data.length % 4) % 4) 0

/-- The words that hold a text and the zero byte behind it, low byte first. -/
def pack (text : String) : List UInt32 :=
  Word.readAll .little (pad (encode text ++ [0]))

theorem length_pad_mod (data : List UInt8) : (pad data).length % 4 = 0 := by
  rw [pad, List.length_append, List.length_replicate]
  omega

theorem bytes_pack (text : String) :
    ∃ zeros : List UInt8, zeros.length < 4 ∧
      (pack text).flatMap Word.bytes = encode text ++ 0 :: zeros := by
  refine ⟨List.replicate ((4 - (encode text ++ [0]).length % 4) % 4) 0, ?_, ?_⟩
  · rw [List.length_replicate]
    omega
  · have h := Word.writeAll_readAll .little _ (length_pad_mod (encode text ++ [0]))
    rw [Word.writeAll] at h
    change (pack text).flatMap Word.bytes = _ at h
    rw [h, pad, List.append_assoc]
    rfl

end ShaderInterface.Utf8

namespace ShaderInterface.Operand

variable {content garbage : List UInt8} {packed : List UInt32}

theorem bne_zero_of_mem (hcontent : 0 ∉ content) : ∀ b ∈ content, (b != 0) = true := by
  intro b hb
  rw [bne_iff_ne]
  rintro rfl
  exact hcontent hb

theorem length_of_terminated (hgarbage : garbage.length < 4)
    (hbytes : packed.flatMap Word.bytes = content ++ 0 :: garbage) :
    packed.length = content.length / 4 + 1 := by
  have hsum := Word.length_flatMap_bytes packed
  rw [hbytes, List.length_append, List.length_cons] at hsum
  omega

/-- The bytes up to the first zero byte are read, and then the words that hold them are passed. -/
theorem text_of_terminated (hcontent : 0 ∉ content) (hgarbage : garbage.length < 4)
    (hbytes : packed.flatMap Word.bytes = content ++ 0 :: garbage) (opcode : UInt16) (bound : Int)
    (position : Nat) (rest : List UInt32) :
    Operand.text ⟨opcode, bound, position, packed ++ rest⟩ =
      (.ok (Utf8.decode content), ⟨opcode, bound, position + packed.length, rest⟩) := by
  have htake : ((packed ++ rest).flatMap Word.bytes).takeWhile (· != 0) = content := by
    rw [List.flatMap_append, hbytes, List.append_assoc,
      List.takeWhile_append_of_pos (bne_zero_of_mem hcontent)]
    simp
  -- The reading stops before `rest`.
  have hskip : min (content.length / 4 + 1) (packed ++ rest).length = packed.length := by
    rw [← length_of_terminated hgarbage hbytes, List.length_append]
    omega
  simp only [Operand.text, htake, hskip, Cursor.skip, List.drop_left]

theorem text_pack {text : String} (h : '\x00' ∉ text.toList) (opcode : UInt16) (bound : Int)
    (position : Nat) (rest : List UInt32) :
    Operand.text ⟨opcode, bound, position, Utf8.pack text ++ rest⟩ =
      (.ok text, ⟨opcode, bound, position + (Utf8.pack text).length, rest⟩) := by
  obtain ⟨zeros, hzeros, hbytes⟩ := Utf8.bytes_pack text
  rw [text_of_terminated (Utf8.zero_not_mem_encode h) hzeros hbytes, Utf8.decode_encode]

end ShaderInterface.Operand
