import Mathlib.Data.List.TakeWhile
import ShaderInterface.Proofs.PackedText

namespace ShaderInterface

namespace Word

theorem flatMap_bytes_take (words : List UInt32) (n : Nat) :
    (words.take n).flatMap bytes = (words.flatMap bytes).take (4 * n) := by
  induction words generalizing n with
  | nil => simp
  | cons w rest ih =>
    cases n with
    | zero => rfl
    | succ n =>
      have hn : 4 * (n + 1) = (bytes w).length + 4 * n := by
        rw [bytes, List.length_cons, List.length_cons, List.length_cons, List.length_singleton]
        omega
      rw [List.take_succ_cons, List.flatMap_cons, List.flatMap_cons, ih, hn,
        List.take_length_add_append]

end Word

def Cursor.inside (opcode : UInt16) (bound : Int) (words : List UInt32) (p : Nat) : Cursor :=
  ⟨opcode, bound, p, words.drop p⟩

theorem Cursor.start_cons (bound : Int) (head : UInt32) (operands : List UInt32) :
    Cursor.start bound (head :: operands) =
      .ok (.inside head.toUInt16 bound (head :: operands) 1) :=
  rfl

theorem Cursor.skip_inside (opcode : UInt16) (bound : Int) (words : List UInt32) (p n : Nat) :
    (Cursor.inside opcode bound words p).skip n = .inside opcode bound words (p + n) := by
  rw [Cursor.skip, inside, inside, List.drop_drop]

namespace Operand

variable {words others : List UInt32} {p : Nat} {content tail : List UInt8}

theorem exists_packed (htail : words.flatMap Word.bytes = content ++ 0 :: tail) :
    ∃ garbage : List UInt8, garbage.length < 4 ∧ content.length / 4 < words.length ∧
      (words.take (content.length / 4 + 1)).flatMap Word.bytes = content ++ 0 :: garbage := by
  have hlength := Word.length_flatMap_bytes words
  rw [htail, List.length_append, List.length_cons] at hlength
  refine ⟨tail.take (4 * (content.length / 4 + 1) - content.length - 1), ?_, by omega, ?_⟩
  · rw [List.length_take]
    omega
  · have hcut : 4 * (content.length / 4 + 1) =
        content.length + (4 * (content.length / 4 + 1) - content.length - 1 + 1) := by
      omega
    rw [Word.flatMap_bytes_take, htail, hcut, List.take_length_add_append, List.take_succ_cons,
      ← hcut]

theorem exists_terminated {words : List UInt32} (h : 0 ∈ words.flatMap Word.bytes) :
    ∃ packed rest content garbage, words = packed ++ rest ∧ 0 ∉ content ∧
      garbage.length < 4 ∧ packed.flatMap Word.bytes = content ++ 0 :: garbage := by
  obtain ⟨content, tail, hbytes, hcontent⟩ := List.eq_append_cons_of_mem h
  obtain ⟨garbage, hgarbage, -, hpacked⟩ := exists_packed hbytes
  exact ⟨_, _, content, garbage, (List.take_append_drop _ words).symm, hcontent, hgarbage, hpacked⟩

theorem text_inside_of_terminated (hcontent : 0 ∉ content)
    (htail : (words.drop p).flatMap Word.bytes = content ++ 0 :: tail)
    (hothers : others.take (p + (content.length / 4 + 1)) =
      words.take (p + (content.length / 4 + 1))) (opcode : UInt16) (bound : Int) :
    text (.inside opcode bound others p) = (.ok (Utf8.decode content),
      .inside opcode bound others (p + (content.length / 4 + 1))) := by
  obtain ⟨garbage, hgarbage, hlt, hbytes⟩ := exists_packed htail
  have hsame : (others.drop p).take (content.length / 4 + 1) =
      (words.drop p).take (content.length / 4 + 1) := by
    have hdrop := congrArg (List.drop p) hothers
    rwa [List.drop_take, List.drop_take, Nat.add_sub_cancel_left] at hdrop
  have hpacked := text_of_terminated hcontent hgarbage hbytes opcode bound p
    ((others.drop p).drop (content.length / 4 + 1))
  rw [← hsame, List.take_append_drop, hsame, List.length_take_of_le hlt, List.drop_drop] at hpacked
  exact hpacked

theorem text_of_unterminated {words : List UInt32} (h : 0 ∉ words.flatMap Word.bytes)
    (opcode : UInt16) (bound : Int) (p : Nat) :
    text ⟨opcode, bound, p, words⟩ =
      (.ok (Utf8.decode (words.flatMap Word.bytes)), ⟨opcode, bound, p + words.length, []⟩) := by
  have hskip : min (4 * words.length / 4 + 1) words.length = words.length := by omega
  simp only [text, List.takeWhile_eq_self_iff.2 (bne_zero_of_mem h), Word.length_flatMap_bytes,
    hskip, Cursor.skip, List.drop_length]

theorem text_inside_of_unterminated (hbytes : 0 ∉ (words.drop p).flatMap Word.bytes)
    (hp : p ≤ words.length) (opcode : UInt16) (bound : Int) :
    text (.inside opcode bound words p) =
      (.ok (Utf8.decode ((words.drop p).flatMap Word.bytes)),
        .inside opcode bound words words.length) := by
  rw [Cursor.inside, text_of_unterminated hbytes, Cursor.inside, List.drop_length,
    List.length_drop, Nat.add_sub_cancel' hp]

/-- Text is read back up to its zero byte, and the reading stops at the word behind it. -/
theorem text_resynchronises (opcode : UInt16) (bound : Int) (words : List UInt32) (p : Nat)
    (hp : p ≤ words.length) :
    (∀ (s : String) (garbage : List UInt8) (packed following : List UInt32),
      '\x00' ∉ s.toList → garbage.length < 4 → words.drop p = packed ++ following →
      packed.flatMap Word.bytes = Utf8.encode s ++ 0 :: garbage →
        packed.length = (Utf8.encode s).length / 4 + 1 ∧
        text (.inside opcode bound words p) =
          (.ok s, ⟨opcode, bound, p + packed.length, following⟩)) ∧
    (∀ s : String, '\x00' ∉ s.toList → (words.drop p).flatMap Word.bytes = Utf8.encode s →
      text (.inside opcode bound words p) = (.ok s, ⟨opcode, bound, words.length, []⟩)) ∧
    (∀ content tail : List UInt8, 0 ∉ content →
      (words.drop p).flatMap Word.bytes = content ++ 0 :: tail →
        p + (content.length / 4 + 1) ≤ words.length ∧
        ∀ others : List UInt32,
          others.take (p + (content.length / 4 + 1)) =
            words.take (p + (content.length / 4 + 1)) →
          text (.inside opcode bound others p) = (.ok (Utf8.decode content),
            .inside opcode bound others (p + (content.length / 4 + 1)))) ∧
    (0 ∉ (words.drop p).flatMap Word.bytes →
      text (.inside opcode bound words p) =
        (.ok (Utf8.decode ((words.drop p).flatMap Word.bytes)),
          .inside opcode bound words words.length)) ∧
    (text (.inside opcode bound words p)).2.position ≤ words.length := by
  refine ⟨fun s garbage packed following hs hgarbage hwords hbytes => ?packed,
    fun s hs hbytes => ?full, fun content tail hcontent htail => ?terminated,
    fun hzero => text_inside_of_unterminated hzero hp opcode bound, ?position⟩
  case packed =>
    have hcontent := Utf8.zero_not_mem_encode hs
    refine ⟨length_of_terminated hgarbage hbytes, ?_⟩
    rw [Cursor.inside, hwords, text_of_terminated hcontent hgarbage hbytes, Utf8.decode_encode]
  case full =>
    have hzero : 0 ∉ (words.drop p).flatMap Word.bytes := hbytes ▸ Utf8.zero_not_mem_encode hs
    rw [text_inside_of_unterminated hzero hp, hbytes, Utf8.decode_encode, Cursor.inside,
      List.drop_length]
  case terminated =>
    obtain ⟨-, -, hlt, -⟩ := exists_packed htail
    rw [List.length_drop] at hlt
    exact ⟨by omega, fun others hothers =>
      text_inside_of_terminated hcontent htail hothers opcode bound⟩
  case position =>
    change p + min _ (words.drop p).length ≤ words.length
    rw [List.length_drop]
    omega

/-- A character whose two bytes lie in two words, and two free bytes behind the terminator. -/
theorem text_resynchronises_straddling :
    Cursor.start 9 [0x4000F, 0xC3636261, 0xFFFE00A9, 7] =
        .ok (.inside 15 9 [0x4000F, 0xC3636261, 0xFFFE00A9, 7] 1) ∧
      text (.inside 15 9 [0x4000F, 0xC3636261, 0xFFFE00A9, 7] 1) =
        (.ok "abcé", ⟨15, 9, 3, [7]⟩) := by
  refine ⟨Cursor.start_cons 9 0x4000F _, ?_⟩
  exact ((text_resynchronises 15 9 [0x4000F, 0xC3636261, 0xFFFE00A9, 7] 1 (by decide)).1 "abcé"
    [0xFE, 0xFF] [0xC3636261, 0xFFFE00A9] [7] (by decide) (by decide) rfl (by decide +kernel)).2

end Operand

end ShaderInterface
