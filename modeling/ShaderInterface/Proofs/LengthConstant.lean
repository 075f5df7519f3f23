import Mathlib.Data.Nat.Digits.Defs
import ShaderInterface.Proofs.DepthLimit
import ShaderInterface.Proofs.ExactSize
import ShaderInterface.Proofs.ShaderTypeChain
import ShaderInterface.Proofs.SpokenFrames

namespace ShaderInterface

/-- The number that words spell, the low one first. -/
def wordsValue (values : List UInt32) : Nat :=
  Nat.ofDigits (2 ^ 32) (values.map UInt32.toNat)

theorem wordsValue_cons (first : UInt32) (rest : List UInt32) :
    wordsValue (first :: rest) = first.toNat + 2 ^ 32 * wordsValue rest := by
  simp [wordsValue, Nat.ofDigits_cons]

theorem toNat_eq_wordsValue_mod (first : UInt32) (rest : List UInt32) :
    first.toNat = wordsValue (first :: rest) % 2 ^ 32 := by
  have hfirst := first.toNat_lt
  rw [wordsValue_cons]
  omega

namespace IdTable

variable {t : IdTable} {limit : Int} {element length count : UInt32}

/-- Where no level is left for an array, none is left for its element. -/
theorem levels_step (limit : Int) :
    levels (limit + 1) = levels limit + 1 ∨ levels (limit + 1) = 0 ∧ levels limit = 0 := by
  unfold levels
  omega

theorem sizeOf_eq_ok_iff {type : TypeDecl} {n : Nat} :
    t.sizeOf limit type = .ok (some n) ↔ t.Fits (levels limit) type ∧ t.HasSize type n := by
  constructor
  · exact fun h => measures_of_sizeOf h
  · rintro ⟨hfits, hsize⟩
    obtain ⟨n', hn'⟩ := exists_sizeOf_iff.2 hfits
    rw [hn', (measures_of_sizeOf hn').2.unique hsize]

theorem sizeOf_array_eq_ok_iff (hlength : t.HasLength length count) {size : Nat} :
    t.sizeOf (limit + 1) (.array element length) = .ok (some size) ↔
      ∃ decl n, t.HasType element decl ∧ t.sizeOf limit decl = .ok (some n) ∧
        size = count.toNat * n := by
  simp only [sizeOf_eq_ok_iff]
  constructor
  · rintro ⟨hfits, hsize⟩
    cases hsize with
    | array htype helement hlength' =>
      rw [hlength.unique hlength']
      rcases levels_step limit with hlevels | ⟨hlevels, -⟩
      · rw [hlevels] at hfits
        have hbelow := (fits_succ_iff.1 hfits).2 element (List.mem_singleton_self _) _ htype
        exact ⟨_, _, htype, ⟨hbelow, helement⟩, rfl⟩
      · rw [hlevels] at hfits
        exact absurd hfits not_fits_zero
  · rintro ⟨decl, n, htype, ⟨hfits, hsize⟩, rfl⟩
    rcases levels_step limit with hlevels | ⟨-, hlevels⟩
    · rw [hlevels]
      exact ⟨fits_of_part rfl ⟨count, hlength⟩ htype hfits, .array htype hsize hlength⟩
    · rw [hlevels] at hfits
      exact absurd hfits not_fits_zero

theorem shaderTypeOf_array_eq_ok_iff (hlength : t.HasLength length count) {g : ShaderType} :
    t.shaderTypeOf (limit + 1) (.array element length) = .ok g ↔
      ∃ decl inner, t.HasType element decl ∧ t.shaderTypeOf limit decl = .ok inner ∧
        g = .array inner count.toNat := by
  simp only [shaderTypeOf, shaderTypeWithin_eq_ok_iff]
  constructor
  · rintro ⟨k, hk, hspells⟩
    cases k with
    | zero => exact absurd hspells (not_spells_zero rfl)
    | succ k =>
      obtain ⟨decl, htype⟩ := exists_hasType_of_spells rfl hspells
      obtain ⟨inner, count', hinner, hlength', rfl⟩ := (spells_array_iff htype).1 hspells
      rw [hlength.unique hlength']
      have hlevels := levels_step limit
      exact ⟨decl, inner, htype, ⟨k, by omega, hinner⟩, rfl⟩
  · rintro ⟨decl, inner, htype, ⟨k, hk, hinner⟩, rfl⟩
    have hlevels := levels_step limit
    exact ⟨k + 1, by omega, (spells_array_iff htype).2 ⟨inner, count, hinner, hlength, rfl⟩⟩

/-- The limit itself is only named in a refusal. -/
theorem layoutWithin_eq_ok {limit limit' : Int} {n : Nat} {type : TypeDecl} {l : Layout}
    (h : t.layoutWithin limit n type = .ok l) : t.layoutWithin limit' n type = .ok l := by
  have hloosens : Loosens limit (t.layoutWithin limit n type) (t.layoutWithin limit' n type) :=
    t.loosens_layoutWithin (Nat.le_refl n) type
  rw [hloosens.eq_of_ne (by rw [h]; nofun), h]

theorem layoutOf_array_eq_ok_iff (hlength : t.HasLength length count) {l : Layout} :
    t.layoutOf (limit + 1) (.array element length) = .ok l ↔
      ∃ decl inner, t.HasType element decl ∧ t.layoutOf limit decl = .ok inner ∧
        inner.repeat? count.toNat = some l := by
  have hcount := arrayLength_eq_ok_iff.2 hlength
  unfold layoutOf
  rcases levels_step limit with hlevels | ⟨hlevels, hlevels'⟩
  · rw [hlevels]
    constructor
    · intro h
      obtain ⟨decl, hdecl, -⟩ := bind_eq_ok_iff.1 h
      have htype := typeOf_eq_ok_iff.1 hdecl
      rw [layoutWithin_array htype hcount, bind_eq_ok_iff] at h
      obtain ⟨inner, hinner, h⟩ := h
      exact ⟨decl, inner, htype, layoutWithin_eq_ok hinner, Layout.orFault_eq_ok_iff.1 h⟩
    · rintro ⟨decl, inner, htype, hinner, h⟩
      rw [layoutWithin_array htype hcount, layoutWithin_eq_ok hinner]
      exact Layout.orFault_eq_ok_iff.2 h
  · rw [hlevels, hlevels']
    exact ⟨nofun, fun ⟨decl, inner, _, h, _⟩ => nomatch h⟩

end IdTable

/-- The last constant that the frames give to an id is of an unsigned integer type of one word or of
two, and has as many. -/
structure UnsignedConstant (t : IdTable) (frames : List Frame) (id type : UInt32)
    (values : List UInt32) : Prop where
  last : ∃ before after, (∀ f ∈ after, f.constant? id = none) ∧
    frames = before ++ ⟨Opcode.opConstant.number, type :: id :: values⟩ :: after
  width : t.HasType type (.int 32 false) ∧ values.length = 1 ∨
    t.HasType type (.int 64 false) ∧ values.length = 2

theorem UnsignedConstant.getLast?_eq {t : IdTable} {frames : List Frame} {id type : UInt32}
    {values : List UInt32} (h : UnsignedConstant t frames id type values) :
    (frames.filterMap (Frame.constant? id)).getLast? = some ⟨type, values⟩ := by
  obtain ⟨before, after, hafter, rfl⟩ := h.last
  have hnone : after.filterMap (Frame.constant? id) = [] := List.filterMap_eq_nil_iff.2 hafter
  have hsome : Frame.constant? id ⟨Opcode.opConstant.number, type :: id :: values⟩ =
      some ⟨type, values⟩ := by
    simp [Frame.constant?]
  rw [List.filterMap_append, List.filterMap_cons_some hsome, hnone, List.getLast?_concat]

theorem UnsignedConstant.exists_cons {t : IdTable} {frames : List Frame} {id type : UInt32}
    {values : List UInt32} (h : UnsignedConstant t frames id type values) :
    ∃ first rest, values = first :: rest := by
  apply List.exists_cons_of_length_pos
  rcases h.width with ⟨-, hvalues⟩ | ⟨-, hvalues⟩ <;> omega

namespace Module

open Instruction

variable {words : List UInt32} {m : Module}

theorem const?_build {h : Header} {is : List Instruction} {frames : List Frame} {id : UInt32}
    {decl : ConstantDecl} (hread : Frame.readAll h.bound.toNat frames = .ok is)
    (hlast : (frames.filterMap (Frame.constant? id)).getLast? = some decl) :
    ∃ e, (build h is).ids.get? id.toNat = some e ∧ e.const? = some decl := by
  rw [← Frame.last_constantOf?_eq hread] at hlast
  obtain ⟨i, hi, hdecl⟩ := exists_mem_of_last hlast
  have hids := Frame.ids_lt_of_forall₂ (Frame.forall₂_of_readAll hread) i hi
  rw [eq_of_constantOf? hdecl] at hids
  have hlt : id < h.bound := UInt32.lt_iff_toNat_lt.2 (hids id (.head _))
  exact ⟨_, get?_build hlt is, hlast⟩

/-- The length of an array is the first word of its constant, whatever the words behind it. -/
theorem arrayLength_eq_first_word (hdecode : (decode words).result = .ok m) :
    ∃ body frames, (Header.read words).result = .ok (m.header, body) ∧
      Frame.split Header.size body = (frames, none) ∧
      ∀ (length type : UInt32) (values : List UInt32),
        UnsignedConstant m.ids frames length type values →
        ∃ count, m.ids.arrayLength length.toNat = .ok count ∧
          count.toNat = wordsValue values % 2 ^ 32 ∧
          (count.toNat = wordsValue values ↔ wordsValue values < 2 ^ 32) ∧
          (values.length = 1 → count.toNat = wordsValue values) ∧
          ∀ (limit : Int) (element : UInt32),
            (∀ size, m.ids.sizeOf (limit + 1) (.array element length) = .ok (some size) ↔
              ∃ decl n, m.ids.HasType element decl ∧ m.ids.sizeOf limit decl = .ok (some n) ∧
                size = count.toNat * n) ∧
            (∀ g, m.ids.shaderTypeOf (limit + 1) (.array element length) = .ok g ↔
              ∃ decl inner, m.ids.HasType element decl ∧
                m.ids.shaderTypeOf limit decl = .ok inner ∧ g = .array inner count.toNat) ∧
            (∀ l, m.ids.layoutOf (limit + 1) (.array element length) = .ok l ↔
              ∃ decl inner, m.ids.HasType element decl ∧ m.ids.layoutOf limit decl = .ok inner ∧
                inner.repeat? count.toNat = some l ∧ l.shape = count.toNat :: inner.shape) := by
  obtain ⟨is, hprogram, hbuild⟩ := exists_program_of_decode hdecode
  obtain ⟨body, frames, hheader, hsplit, hread⟩ := program_eq_ok_iff.1 hprogram
  refine ⟨body, frames, hheader, hsplit, fun length type values hconstant => ?_⟩
  obtain ⟨e, he, hconst⟩ := const?_build hread hconstant.getLast?_eq
  rw [← hbuild] at he
  obtain ⟨first, rest, rfl⟩ := hconstant.exists_cons
  have hlength : m.ids.HasLength length first := ⟨e, type, rest, he, hconst⟩
  have hmod := toNat_eq_wordsValue_mod first rest
  have hfirst := first.toNat_lt
  refine ⟨first, IdTable.arrayLength_eq_ok_iff.2 hlength, hmod, by omega, fun hone => ?_,
    fun limit element => ⟨fun size => ?_, fun g => ?_, fun l => ?_⟩⟩
  · rw [List.length_eq_zero_iff.1 (Nat.succ.inj hone), wordsValue_cons]
    simp [wordsValue]
  · exact IdTable.sizeOf_array_eq_ok_iff hlength
  · exact IdTable.shaderTypeOf_array_eq_ok_iff hlength
  · rw [IdTable.layoutOf_array_eq_ok_iff hlength]
    refine exists_congr fun decl => exists_congr fun inner => and_congr_right fun _ =>
      and_congr_right fun _ => ?_
    exact ⟨fun h => ⟨h, Layout.shape_of_repeat?_eq_some h⟩, And.left⟩

/-- An array of vectors whose length is a constant of two words, of which the second is `high`. -/
def longArrayWords (high : UInt32) : List UInt32 :=
  [Header.magic, 0x10000, 0, 6, 0,
   0x40015, 1, 64, 0,
   0x5002b, 1, 2, 3, high,
   0x30016, 3, 32,
   0x40017, 4, 3, 4,
   0x4001c, 5, 4, 2]

def longArrayModule (high : UInt32) : Module where
  header := ⟨0x10000, 0, 6, 0⟩
  ids := ⟨#[{}, { type? := some (.int 64 false) }, { const? := some ⟨1, [3, high]⟩ },
    { type? := some (.float 32) }, { type? := some (.vector 3 4) },
    { type? := some (.array 4 2) }]⟩
  entryPoint? := none

def longArrayFrames (high : UInt32) : List Frame :=
  [⟨21, [1, 64, 0]⟩, ⟨43, [1, 2, 3, high]⟩, ⟨22, [3, 32]⟩, ⟨23, [4, 3, 4]⟩, ⟨28, [5, 4, 2]⟩]

theorem unsignedConstant_longArray (high : UInt32) :
    UnsignedConstant (longArrayModule high).ids (longArrayFrames high) 2 1 [3, high] where
  last := ⟨[⟨21, [1, 64, 0]⟩], [⟨22, [3, 32]⟩, ⟨23, [4, 3, 4]⟩, ⟨28, [5, 4, 2]⟩], by decide, rfl⟩
  width := .inr ⟨⟨_, rfl, rfl⟩, rfl⟩

theorem arrayLength_eq_first_word_long :
    (decode (longArrayWords 0)).result = .ok (longArrayModule 0) ∧
      (longArrayModule 0).ids.arrayLength 2 = .ok 3 ∧
      (longArrayModule 0).ids.sizeOf 1 (.array 4 2) = .ok (some (3 * 16)) := by
  have hdecode : (decode (longArrayWords 0)).result = .ok (longArrayModule 0) := by
    decide +kernel
  obtain ⟨body, frames, hread, hsplit, hrest⟩ := arrayLength_eq_first_word hdecode
  have hbody : (Header.read (longArrayWords 0)).result =
      .ok ((longArrayModule 0).header, (longArrayWords 0).drop 5) := rfl
  have hframes : Frame.split Header.size ((longArrayWords 0).drop 5) =
      (longArrayFrames 0, none) := by decide +kernel
  cases hbody.symm.trans hread
  cases hframes.symm.trans hsplit
  obtain ⟨count, hcount, hmod, -, -, harray⟩ := hrest 2 1 [3, 0] (unsignedConstant_longArray 0)
  have hthree : count = 3 := UInt32.toNat_inj.1 (hmod.trans (by decide +kernel))
  subst hthree
  exact ⟨hdecode, hcount, ((harray 0 4).1 48).2 ⟨.vector 3 4, 16, ⟨_, rfl, rfl⟩, rfl, rfl⟩⟩

/-- The second word is lost: a constant of 4294967299 makes an array of 3. -/
theorem arrayLength_loses_second_word :
    (decode (longArrayWords 1)).result = .ok (longArrayModule 1) ∧
      Frame.split Header.size ((longArrayWords 1).drop 5) = (longArrayFrames 1, none) ∧
      UnsignedConstant (longArrayModule 1).ids (longArrayFrames 1) 2 1 [3, 1] ∧
      wordsValue [3, 1] = 4294967299 ∧
      (longArrayModule 1).ids.arrayLength 2 = .ok 3 ∧
      (longArrayModule 1).ids.sizeOf 64 (.array 4 2) = .ok (some 48) := by
  have hdecode : (decode (longArrayWords 1)).result = .ok (longArrayModule 1) := by
    decide +kernel
  refine ⟨hdecode, by decide +kernel, unsignedConstant_longArray 1, ?_, by decide, by decide⟩
  simp [wordsValue, Nat.ofDigits_cons]

end Module

end ShaderInterface
