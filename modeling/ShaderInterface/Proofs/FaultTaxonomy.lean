import ShaderInterface.CommandLine.Run
import ShaderInterface.Proofs.ByteOrder
import ShaderInterface.Proofs.DecodedTable
import ShaderInterface.Proofs.ReadingFaults

namespace ShaderInterface

namespace Fault

def reflectionCategories : List Category :=
  [.malformed, .unsupportedFeature, .unsupportedType, .unresolvedSize, .recursion]

theorem category_mem_of_concernsModule {f : Fault} (h : f.concernsModule = true) :
    f.category ∈ reflectionCategories := by
  rw [concernsModule] at h
  cases hcategory : f.category <;> rw [hcategory] at h
  all_goals first | decide | cases h

theorem category_mem_of_unreadable {f : Fault} (h : f.Unreadable) :
    f.category ∈ reflectionCategories := by
  have hsub : [Category.malformed, .unsupportedFeature] ⊆ reflectionCategories := by decide
  exact hsub h

end Fault

namespace Module

theorem settles_ofData (order : ByteOrder) (data : List UInt8) :
    Settles (ofData order.name (.bytes data)).result (fun m => m.ids.Closed) Fault.Unreadable := by
  rw [result_ofData]
  by_cases hlen : data.length % 4 = 0
  · rw [ModuleData.load_bytes, ModuleData.loadBytes_of_whole order hlen]
    change Settles (decode (Word.readAll order data)).result _ _
    have hdecode := settles_decode (Word.readAll order data)
    cases hresult : (decode (Word.readAll order data)).result with
    | ok m => exact .ok (closed_ids_of_decode hresult)
    | error fault => exact .error (hdecode.of_eq_error hresult)
  · rw [ModuleData.load_partial hlen]
    exact .error (.head _)

end Module

theorem settles_reflect_bytes (order : ByteOrder) (limit : Int) (data : List UInt8) :
    Settles (reflect order.name limit (.bytes data)).result (fun _ => True)
      (·.category ∈ Fault.reflectionCategories) := by
  rw [result_reflect]
  have hmodule := (Module.settles_ofData order data).mono (fun _ h => h) fun _ =>
    Fault.category_mem_of_unreadable
  refine hmodule.bind fun m hm => ?_
  exact (Module.settles_reflect hm limit).mono (fun _ _ => trivial) fun _ hfault =>
    Fault.category_mem_of_concernsModule hfault.1

namespace Frame

/-- Every frame is cut around words that a cursor can be placed in front of. -/
theorem exists_chunks (index : Nat) (words : List UInt32) :
    ∃ chunks rest, Cut words chunks rest ∧ (split index words).1 = chunks.map ofChunk ∧
      ∀ chunk ∈ chunks, ∀ bound : Nat,
        Cursor.start bound chunk = .ok ((ofChunk chunk).cursor bound) := by
  obtain ⟨chunks, rest, hcut, hstuck⟩ := exists_cut words
  refine ⟨chunks, rest, hcut, by rw [split_of_cut hcut hstuck], fun chunk hchunk bound => ?_⟩
  have hwhole := hcut.whole chunk hchunk
  cases chunk with
  | nil => exact hwhole.elim
  | cons head operands => rfl

end Frame

namespace CommandLine

theorem joinLines_cons_ne_empty (line : String) (rest : List String) :
    joinLines (line :: rest) ≠ "" := by
  intro h
  have hlist := congrArg String.toList h
  simp [joinLines] at hlist

theorem respond_cases (o : Options) (data : List UInt8) :
    ((respond o data).exitCode = 0 ∧ (respond o data).out ≠ "") ∨
    ((respond o data).exitCode = 1 ∧ (respond o data).out = "" ∧
      ∃ fault, (reflect o.byteOrder.name defaultLimit (.bytes data)).result = .error fault) := by
  rw [respond]
  cases (reflect o.byteOrder.name defaultLimit (.bytes data)).result with
  | ok r => exact .inl ⟨rfl, joinLines_cons_ne_empty _ _⟩
  | error fault => exact .inr ⟨rfl, rfl, fault, rfl⟩

end CommandLine

/-- Every refusal is of a documented category, and every run ends with a report or with one. -/
theorem fault_categories :
    (∀ (order : ByteOrder) (data : List UInt8) (fault : Fault),
      (Module.ofData order.name (.bytes data)).result = .error fault →
      fault.category ∈ [Fault.Category.malformed, .unsupportedFeature]) ∧
    (∀ (order : ByteOrder) (limit : Int) (data : List UInt8) (fault : Fault),
      (reflect order.name limit (.bytes data)).result = .error fault →
      fault.category ∈ Fault.reflectionCategories) ∧
    (∀ (index : Nat) (words : List UInt32), ∃ chunks rest, Frame.Cut words chunks rest ∧
      (Frame.split index words).1 = chunks.map Frame.ofChunk ∧
      ∀ chunk ∈ chunks, ∀ bound : Nat,
        Cursor.start bound chunk = .ok ((Frame.ofChunk chunk).cursor bound)) ∧
    (∀ r : Resource, ∃ d?, r.descriptor? = .ok d?) ∧
    ∀ (args : List String) (find : String → CommandLine.Found) (o : CommandLine.Options)
      (data : List UInt8), CommandLine.Request.ofArguments args = .ok (.report o) →
      find o.file = .content data →
      ∃ response, CommandLine.run args find = .ok response ∧
        (response.exitCode = 0 ∨ response.exitCode = 1) ∧
        (response.out = "" ↔ response.exitCode = 1) ∧
        (response.exitCode = 1 → ∃ fault,
          (reflect o.byteOrder.name defaultLimit (.bytes data)).result = .error fault ∧
          fault.category ∈ Fault.reflectionCategories) := by
  refine ⟨?_, ?_, Frame.exists_chunks, Resource.exists_descriptor?, ?_⟩
  · intro order data fault hfault
    exact (Module.settles_ofData order data).of_eq_error hfault
  · intro order limit data fault hfault
    exact (settles_reflect_bytes order limit data).of_eq_error hfault
  · intro args find o data hargs hfind
    refine ⟨CommandLine.respond o data, ?_, ?_⟩
    · simp only [CommandLine.run, hargs, hfind]
    · rcases CommandLine.respond_cases o data with ⟨hexit, hout⟩ | ⟨hexit, hout, fault, hfault⟩
      · have hne : (0 : UInt32) ≠ 1 := by decide
        rw [hexit]
        exact ⟨.inl rfl, ⟨fun h => absurd h hout, fun h => absurd h hne⟩, fun h => absurd h hne⟩
      · have hcategory := (settles_reflect_bytes o.byteOrder defaultLimit data).of_eq_error hfault
        exact ⟨.inr hexit, ⟨fun _ => hexit, fun _ => hout⟩, fun _ => ⟨fault, hfault, hcategory⟩⟩

/-- A module whose only input has a type that never ends. -/
def cyclicBytes : List UInt8 :=
  Word.writeAll .little Module.cyclicWords

theorem fault_categories_cyclic :
    (Module.ofData ByteOrder.big.name (.bytes [3])).result = .error (.partialWord 1) ∧
    Fault.Category.malformed ∈ [Fault.Category.malformed, .unsupportedFeature] ∧
    (reflect ByteOrder.little.name 64 (.bytes cyclicBytes)).result = .error (.typesTooDeep 64) ∧
    Fault.Category.recursion ∈ Fault.reflectionCategories ∧
    CommandLine.Request.ofArguments ["module.spv"] =
      .ok (.report ⟨Path.normalize "module.spv", false, false⟩) ∧
    ∃ response, CommandLine.run ["module.spv"] (fun _ => .content cyclicBytes) = .ok response ∧
      (response.exitCode = 0 ∨ response.exitCode = 1) ∧
      (response.out = "" ↔ response.exitCode = 1) := by
  have hpartial : (Module.ofData ByteOrder.big.name (.bytes [3])).result =
      .error (.partialWord 1) := by decide +kernel
  have hcyclic : (reflect ByteOrder.little.name 64 (.bytes cyclicBytes)).result =
      .error (.typesTooDeep 64) := by decide +kernel
  have hargs : CommandLine.Request.ofArguments ["module.spv"] =
      .ok (.report ⟨Path.normalize "module.spv", false, false⟩) := rfl
  obtain ⟨hdata, hreflect, -, -, hrun⟩ := fault_categories
  obtain ⟨response, hresponse, hexit, hout, -⟩ :=
    hrun ["module.spv"] (fun _ => .content cyclicBytes) _ cyclicBytes hargs rfl
  exact ⟨hpartial, hdata _ _ _ hpartial, hcyclic, hreflect _ _ _ _ hcyclic, hargs, response,
    hresponse, hexit, hout⟩

end ShaderInterface
