import ShaderInterface.Interface.InputLayout
import ShaderInterface.Proofs.ByteOrder
import ShaderInterface.Proofs.DecodeFraming

namespace ShaderInterface

theorem result_reflect_of_load {order : String} {data : ModuleData} {words : List UInt32}
    (hload : data.load order = .ok words) (limit : Int) :
    (reflect order limit data).result =
      (Module.decode words).result.bind fun m => (m.reflect limit).result := by
  rw [result_reflect, Module.result_ofData, hload]
  rfl

namespace Module

open ShaderInterface.Frame

/-- The words are a header and whole instructions behind it, to the end. -/
structure Framed (words : List UInt32) (h : Header) (chunks : List (List UInt32)) : Prop where
  read_eq : (Header.read words).result = .ok (h, chunks.flatten)
  whole : ∀ chunk ∈ chunks, Whole chunk

variable {words words' : List UInt32} {h : Header} {chunks chunks' : List (List UInt32)}

theorem Framed.split_eq (hw : Framed words h chunks) :
    split Header.size chunks.flatten = (chunks.map ofChunk, none) := by
  have hcut : Cut chunks.flatten chunks [] := ⟨(List.append_nil _).symm, hw.whole⟩
  exact split_of_cut hcut trivial Header.size

/-- Only the instructions that are handled have a say. -/
theorem Framed.result_decode_eq (hw : Framed words h chunks) :
    (decode words).result = (runChunks h chunks).result := by
  rw [result_decode_of_read hw.read_eq, hw.split_eq, runChunks, ← foldlM_absorb_ofChunk hw.whole]
  cases ((chunks.map ofChunk).foldlM (absorb h.bound.toNat) (blank h)).result <;> rfl

/-- Words that differ only in unhandled instructions give the same module or fail alike. -/
theorem unhandled_invisible (hw : Framed words h chunks) (hw' : Framed words' h chunks')
    (hsame : chunks.filter handled = chunks'.filter handled) :
    (decode words).result = (decode words').result ∧
    ∀ (order order' : String) (data data' : ModuleData), data.load order = .ok words →
      data'.load order' = .ok words' → ∀ limit : Int,
      (ShaderInterface.reflect order limit data).result =
        (ShaderInterface.reflect order' limit data').result ∧
      ((ofData order data).result.bind fun m => (m.ids.inputLayout limit).result) =
        (ofData order' data').result.bind fun m => (m.ids.inputLayout limit).result := by
  have hdecode : (decode words).result = (decode words').result := by
    rw [hw.result_decode_eq, hw'.result_decode_eq, runChunks, runChunks, hsame]
  refine ⟨hdecode, fun order order' data data' hload hload' limit => ⟨?_, ?_⟩⟩
  · rw [result_reflect_of_load hload, result_reflect_of_load hload', hdecode]
  · rw [result_ofData, result_ofData, hload, hload']
    exact congrArg (Except.bind · _) hdecode

def sparseChunks : List (List UInt32) :=
  [[0x30005, 1, 0x41], [0x20013, 1]]

/-- The same between the instructions of an empty function and one without a name. -/
def paddedChunks : List (List UInt32) :=
  [[0x10000], [0x30005, 1, 0x41], [0x50036, 1, 2, 0, 3], [0x200f8, 4], [0x20013, 1],
    [0x3ffff, 7, 7]]

def sparseHeader : Header :=
  ⟨0x10000, 0, 5, 0⟩

def sparseModule : Module where
  header := sparseHeader
  ids := ⟨#[{}, { name? := some "A", type? := some .void }, {}, {}, {}]⟩
  entryPoint? := none

theorem unhandled_invisible_padded :
    Framed (sparseHeader.toWords ++ sparseChunks.flatten) sparseHeader sparseChunks ∧
    Framed (sparseHeader.toWords ++ paddedChunks.flatten) sparseHeader paddedChunks ∧
    sparseChunks.filter handled = paddedChunks.filter handled ∧
    (decode (sparseHeader.toWords ++ sparseChunks.flatten)).result = .ok sparseModule ∧
    (decode (sparseHeader.toWords ++ paddedChunks.flatten)).result = .ok sparseModule := by
  have hsparse : Framed (sparseHeader.toWords ++ sparseChunks.flatten) sparseHeader sparseChunks :=
    ⟨Header.result_read_toWords _ _, by decide⟩
  have hpadded : Framed (sparseHeader.toWords ++ paddedChunks.flatten) sparseHeader paddedChunks :=
    ⟨Header.result_read_toWords _ _, by decide⟩
  have hsame : sparseChunks.filter handled = paddedChunks.filter handled := by decide
  have hdecode : (decode (sparseHeader.toWords ++ sparseChunks.flatten)).result =
      .ok sparseModule := by decide +kernel
  obtain ⟨hresult, -⟩ := unhandled_invisible hsparse hpadded hsame
  exact ⟨hsparse, hpadded, hsame, hdecode, hresult.symm.trans hdecode⟩

end Module

end ShaderInterface
