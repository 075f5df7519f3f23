import ShaderInterface.Header.Read
import ShaderInterface.Proofs.WordBytes

namespace ShaderInterface.Header

theorem result_accept (h : Header) (body : List UInt32) : (accept h body).result = .ok (h, body) :=
  rfl

theorem swap_magic_ne : Word.swap magic ≠ magic := by decide

theorem result_read_magic (version generator bound schema : UInt32) (body : List UInt32) :
    (read (magic :: version :: generator :: bound :: schema :: body)).result =
      .ok (⟨version, generator, bound, schema⟩, body) := by
  rw [read, if_pos rfl, result_accept]

theorem result_read_swapped (version generator bound schema : UInt32) (body : List UInt32) :
    (read (Word.swap magic :: version :: generator :: bound :: schema :: body)).result =
      .ok (⟨Word.swap version, Word.swap generator, Word.swap bound, Word.swap schema⟩,
        body.map Word.swap) := by
  rw [read, if_neg swap_magic_ne, if_pos rfl, Traced.result_bind]
  rfl

theorem result_read_toWords (h : Header) (body : List UInt32) :
    (read (h.toWords ++ body)).result = .ok (h, body) :=
  result_read_magic h.version h.generator h.bound h.schema body

/-- The words begin with the magic number, in one byte order or the other. -/
def Marked (words : List UInt32) : Prop :=
  words.head? = some magic ∨ words.head? = some (Word.swap magic)

/-- Turning every word changes nothing, as the magic number is turned too. -/
theorem result_read_map_swap {words : List UInt32} (h : Marked words) :
    (read (words.map Word.swap)).result = (read words).result := by
  match words with
  | first :: version :: generator :: bound :: schema :: body =>
    simp only [List.map_cons]
    rcases h with h | h
    · cases h
      rw [result_read_magic, result_read_swapped, Word.map_swap_map_swap]
      simp only [Word.swap_swap]
    · cases h
      rw [Word.swap_swap, result_read_magic, result_read_swapped]
  | [] | [_] | [_, _] | [_, _, _] | [_, _, _, _] => rfl

/-- The words in the byte order in which the magic number is canonical. -/
def logical (words : List UInt32) : List UInt32 :=
  if words.head? = some magic then words else words.map Word.swap

theorem length_logical (words : List UInt32) : (logical words).length = words.length := by
  by_cases h : words.head? = some magic
  · rw [logical, if_pos h]
  · rw [logical, if_neg h, List.length_map]

theorem length_toWords (h : Header) : h.toWords.length = size := rfl

theorem logical_of_read {words body : List UInt32} {h : Header}
    (hread : (read words).result = .ok (h, body)) : logical words = h.toWords ++ body := by
  match words with
  | first :: version :: generator :: bound :: schema :: rest =>
    rw [logical, List.head?_cons]
    by_cases hmagic : first = magic
    · subst hmagic
      rw [result_read_magic] at hread
      cases hread
      rw [if_pos rfl]
      rfl
    by_cases hswapped : first = Word.swap magic
    · subst hswapped
      rw [result_read_swapped] at hread
      cases hread
      rw [if_neg fun he => hmagic (Option.some.inj he), List.map_cons, Word.swap_swap]
      rfl
    · rw [read, if_neg hmagic, if_neg hswapped] at hread
      cases hread
  | [] | [_] | [_, _] | [_, _, _] | [_, _, _, _] => cases hread

theorem exists_read_of_marked {words : List UInt32} (hlen : size ≤ words.length)
    (hmarked : Marked words) :
    ∃ header body, logical words = header.toWords ++ body ∧
      (read words).result = .ok (header, body) := by
  match words with
  | first :: version :: generator :: bound :: schema :: body =>
    rcases hmarked with hmagic | hswapped
    · cases hmagic
      refine ⟨⟨version, generator, bound, schema⟩, body, ?_, result_read_magic _ _ _ _ _⟩
      rw [logical, List.head?_cons, if_pos rfl]
      rfl
    · cases hswapped
      refine ⟨_, _, ?_, result_read_swapped version generator bound schema body⟩
      have hne : ¬ some (Word.swap magic) = some magic := by decide
      rw [logical, List.head?_cons, if_neg hne, List.map_cons, Word.swap_swap]
      rfl
  | [] | [_] | [_, _] | [_, _, _] | [_, _, _, _] =>
    simp only [size, List.length_cons, List.length_nil] at hlen
    omega

end ShaderInterface.Header
