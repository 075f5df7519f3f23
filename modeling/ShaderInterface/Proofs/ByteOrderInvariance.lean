import ShaderInterface.Proofs.BigEndianFlag
import ShaderInterface.Proofs.ByteOrder

namespace ShaderInterface

namespace CommandLine

def Response.visible (r : Response) : UInt32 × String :=
  (r.exitCode, r.out)

theorem visible_respond_eq (o : Options) (data : List UInt8) : (respond o data).visible =
    ((reflect o.byteOrder.name defaultLimit (.bytes data)).result.toOption.map
      fun r => (0, joinLines r.lines)).getD (1, "") := by
  unfold respond
  dsimp only
  cases (reflect o.byteOrder.name defaultLimit (.bytes data)).result <;> rfl

theorem visible_respond (o o' : Options) (data : List UInt8) :
    (respond o data).visible = (respond o' data).visible := by
  rw [visible_respond_eq, visible_respond_eq, toOption_reflect]

def visibleAnswer (request : Except UsageError Request) (find : String → Found) :
    Except Obstacle (UInt32 × String) :=
  match request with
  | .error e => .ok e.respond.visible
  | .ok .help => .ok (0, help)
  | .ok (.report o) =>
    match find o.file with
    | .nothing => .ok (1, "")
    | .content data => .ok (respond o data).visible
    | .unreadable obstacle => .error obstacle

theorem visible_run (args : List String) (find : String → Found) :
    (run args find).map Response.visible =
      visibleAnswer ((Request.ofArguments args).map Request.unordered) find := by
  unfold run
  cases Request.ofArguments args with
  | error e => rfl
  | ok request =>
    cases request with
    | help => rfl
    | report o =>
      dsimp only [Except.map, visibleAnswer, Request.unordered]
      cases find o.file with
      | nothing => rfl
      | content data => exact congrArg Except.ok (visible_respond o _ data)
      | unreadable obstacle => rfl

end CommandLine

/-- A marked module gives the same result from its bytes in either order, however they are read. -/
theorem byte_order_irrelevant :
    (∀ (data : List UInt8) (spelled : ByteOrder), data.take 4 = Word.write spelled Header.magic →
      ∀ x ∈ [data, Word.reverseGroups data], ∀ x' ∈ [data, Word.reverseGroups data],
      ∀ order order' : ByteOrder,
        (Module.ofData order.name (.bytes x)).result =
          (Module.ofData order'.name (.bytes x')).result ∧
        (∀ m, (Module.ofData order.name (.bytes x)).result = .ok m →
          m.header.toWords = (Word.readAll spelled data).take 5) ∧
        ∀ limit, (reflect order.name limit (.bytes x)).result =
          (reflect order'.name limit (.bytes x')).result) ∧
    ∀ (before after : List String) (find : String → CommandLine.Found), "--" ∉ before →
      before = [] ∨ after.head? ≠ some "--" →
      (CommandLine.run (before ++ "--big-endian" :: after) find).map CommandLine.Response.visible =
        (CommandLine.run (before ++ after) find).map CommandLine.Response.visible := by
  refine ⟨?_, fun before after find hbefore hafter => ?_⟩
  · intro data spelled hmagic x hx x' hx' order order'
    have hx := Module.result_ofData_variant hmagic hx order
    have hx' := Module.result_ofData_variant hmagic hx' order'
    refine ⟨hx.trans hx'.symm, fun m hm => ?_, fun limit => ?_⟩
    · have hhead : (Word.readAll spelled data).head? = some Header.magic := by
        rw [Word.readAll_of_take_eq hmagic]
        rfl
      rw [hm] at hx
      split_ifs at hx
      exact Module.toWords_header hhead hx.symm
    · rw [result_reflect, result_reflect, hx, hx']
  · rw [CommandLine.visible_run, CommandLine.visible_run,
      CommandLine.Request.ofArguments_insert hbefore hafter]

def voidTypeBytes : List UInt8 :=
  Word.writeAll .little [Header.magic, 0x10000, 0, 4, 0, 0x20013, 1]

theorem byte_order_irrelevant_void_type :
    voidTypeBytes.take 4 = Word.write .little Header.magic ∧
    (Module.ofData ByteOrder.big.name (.bytes (Word.reverseGroups voidTypeBytes))).result =
      (Module.ofData ByteOrder.little.name (.bytes voidTypeBytes)).result ∧
    "--" ∉ ["-v"] ∧ ["module.spv"].head? ≠ some "--" ∧
    (CommandLine.run ["-v", "--big-endian", "module.spv"]
        fun _ => .content voidTypeBytes).map CommandLine.Response.visible =
      (CommandLine.run ["-v", "module.spv"]
        fun _ => .content voidTypeBytes).map CommandLine.Response.visible := by
  have hmagic : voidTypeBytes.take 4 = Word.write .little Header.magic := by decide
  have hbefore : "--" ∉ ["-v"] := by decide
  have hafter : ["module.spv"].head? ≠ some "--" := by decide
  have hturned : Word.reverseGroups voidTypeBytes ∈
      [voidTypeBytes, Word.reverseGroups voidTypeBytes] := .tail _ (.head _)
  have hmodule := byte_order_irrelevant.1 _ .little hmagic _ hturned _ (.head _) .big .little
  exact ⟨hmagic, hmodule.1, hbefore, hafter,
    byte_order_irrelevant.2 ["-v"] ["module.spv"] _ hbefore (.inr hafter)⟩

end ShaderInterface
