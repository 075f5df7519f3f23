import Mathlib.Order.Basic
import ShaderInterface.Interface.InputLayout
import ShaderInterface.Interface.Reflection

namespace ShaderInterface

variable {α β : Type} {limit limit' : Int}

/-- `y` is what becomes of `x` under a looser depth limit: the same, unless `x` was refused because
types nest deeper than `limit`. -/
def Loosens (limit : Int) (x y : Except Fault α) : Prop :=
  x = .error (.typesTooDeep limit) ∨ y = x

namespace Loosens

theorem refl (x : Except Fault α) : Loosens limit x x :=
  .inr rfl

theorem bind {x y : Except Fault α} {f g : α → Except Fault β} (h : Loosens limit x y)
    (hfg : ∀ a, Loosens limit (f a) (g a)) : Loosens limit (x >>= f) (y >>= g) := by
  rcases h with rfl | rfl
  · exact .inl rfl
  · cases y with
    | ok a => exact hfg a
    | error fault => exact refl _

theorem eq_of_ne {x y : Except Fault α} (h : Loosens limit x y)
    (hx : x ≠ .error (.typesTooDeep limit)) : y = x :=
  h.resolve_left hx

end Loosens

namespace Traced

/-- The same of outcomes with their events: as long as it is not refused, `y` also reports what `x`
reports. -/
def Loosens (limit : Int) (x y : Traced α) : Prop :=
  x.result = .error (.typesTooDeep limit) ∨ y = x

namespace Loosens

theorem refl (x : Traced α) : Loosens limit x x :=
  .inr rfl

theorem eq_of_ne {x y : Traced α} (h : Loosens limit x y)
    (hx : x.result ≠ .error (.typesTooDeep limit)) : y = x :=
  h.resolve_left hx

theorem lift {x y : Except Fault α} (h : ShaderInterface.Loosens limit x y) :
    Loosens limit (liftM x : Traced α) (liftM y) := by
  rcases h with rfl | rfl
  · exact .inl rfl
  · exact refl _

theorem bind {x y : Traced α} {f g : α → Traced β} (h : Loosens limit x y)
    (hfg : ∀ a, Loosens limit (f a) (g a)) : Loosens limit (x >>= f) (y >>= g) := by
  rcases h with hx | rfl
  · exact .inl (by rw [bind_of_error hx])
  · cases hy : y.result with
    | error fault => exact .inr (by rw [bind_of_error hy, bind_of_error hy])
    | ok a =>
      rw [bind_of_ok hy, bind_of_ok hy]
      rcases hfg a with hf | hf
      · exact .inl hf
      · exact .inr (by rw [hf])

theorem collect {f g : α → Traced (Option β)} (hfg : ∀ a, Loosens limit (f a) (g a))
    (l : List α) : Loosens limit (collect f l) (collect g l) := by
  induction l with
  | nil => exact refl _
  | cons a rest ih =>
    refine (hfg a).bind fun b? => ?_
    cases b? with
    | none => exact ih
    | some b => exact ih.bind fun _ => refl _

theorem mapM {f g : α → Traced β} (hfg : ∀ a, Loosens limit (f a) (g a)) (l : List α) :
    Loosens limit (l.mapM f) (l.mapM g) := by
  induction l with
  | nil => exact refl _
  | cons a rest ih =>
    rw [List.mapM_cons, List.mapM_cons]
    exact (hfg a).bind fun _ => ih.bind fun _ => refl _

end Loosens

end Traced

namespace IdTable

variable (t : IdTable) {n n' : Nat}

theorem levels_le_levels (h : limit ≤ limit') : levels limit ≤ levels limit' :=
  Int.toNat_le_toNat (Int.add_le_add_right h 1)

theorem loosens_totalSize {size size' : UInt32 → Except Fault (Option Nat)}
    (h : ∀ id, Loosens limit (size id) (size' id)) (members : List UInt32) :
    Loosens limit (totalSize size members) (totalSize size' members) := by
  induction members with
  | nil => exact .refl _
  | cons id rest ih =>
    refine (h id).bind fun n? => ?_
    cases n? with
    | none => exact .refl _
    | some n => exact ih.bind fun _ => .refl _

/-- Where a walk enters another type, it has a level less to go on both sides; everywhere else the
number of levels has no say. -/
theorem loosens_sizeWithin (h : n ≤ n') (type : TypeDecl) :
    Loosens limit (t.sizeWithin limit n type) (t.sizeWithin limit' n' type) := by
  induction n generalizing n' type with
  | zero => exact .inl rfl
  | succ n ih =>
    obtain ⟨m, rfl⟩ := Nat.exists_eq_add_one_of_ne_zero (Nat.ne_zero_of_lt h)
    have hm : n ≤ m := by omega
    cases type with
    | array element length =>
      refine .bind (.refl _) fun decl => (ih hm decl).bind fun size? => ?_
      exact .refl _
    | pointer storage target => exact .bind (.refl _) fun decl => ih hm decl
    | struct members =>
      refine .bind (.refl _) fun typed => ?_
      cases typed with
      | false => exact .refl _
      | true => exact loosens_totalSize (fun id => .bind (.refl _) fun decl => ih hm decl) members
    | _ => exact .refl _

theorem loosens_shaderTypeWithin (h : n ≤ n') (type : TypeDecl) :
    Loosens limit (t.shaderTypeWithin limit n type) (t.shaderTypeWithin limit' n' type) := by
  induction n generalizing n' type with
  | zero => exact .inl rfl
  | succ n ih =>
    obtain ⟨m, rfl⟩ := Nat.exists_eq_add_one_of_ne_zero (Nat.ne_zero_of_lt h)
    have hm : n ≤ m := by omega
    cases type with
    | array element length =>
      exact .bind (.refl _) fun decl => (ih hm decl).bind fun inner => .refl _
    | pointer storage target => exact .bind (.refl _) fun decl => ih hm decl
    | _ => exact .refl _

theorem loosens_layoutWithin (h : n ≤ n') (type : TypeDecl) :
    Loosens limit (t.layoutWithin limit n type) (t.layoutWithin limit' n' type) := by
  induction n generalizing n' type with
  | zero => exact .inl rfl
  | succ n ih =>
    obtain ⟨m, rfl⟩ := Nat.exists_eq_add_one_of_ne_zero (Nat.ne_zero_of_lt h)
    have hm : n ≤ m := by omega
    cases type with
    | array element length =>
      exact .bind (.refl _) fun decl => (ih hm decl).bind fun inner => .refl _
    | pointer storage target => exact .bind (.refl _) fun decl => ih hm decl
    | matrix column count =>
      exact .bind (.refl _) fun decl => (ih hm decl).bind fun inner => .refl _
    | vector component count =>
      exact .bind (.refl _) fun decl => (ih hm decl).bind fun inner => .refl _
    | _ => exact .refl _

theorem loosens_sizeOf (h : limit ≤ limit') (type : TypeDecl) :
    Loosens limit (t.sizeOf limit type) (t.sizeOf limit' type) :=
  t.loosens_sizeWithin (levels_le_levels h) type

theorem loosens_shaderTypeOf (h : limit ≤ limit') (type : TypeDecl) :
    Loosens limit (t.shaderTypeOf limit type) (t.shaderTypeOf limit' type) :=
  t.loosens_shaderTypeWithin (levels_le_levels h) type

theorem loosens_layoutOf (h : limit ≤ limit') (type : TypeDecl) :
    Loosens limit (t.layoutOf limit type) (t.layoutOf limit' type) :=
  t.loosens_layoutWithin (levels_le_levels h) type

theorem loosens_located (h : limit ≤ limit') (model : ExecutionModel) (storage : StorageClass) :
    Traced.Loosens limit (t.located limit model storage) (t.located limit' model storage) := by
  refine .bind (.refl _) fun located => .mapM (fun p => ?_) located
  refine .bind (.refl _) fun type => ?_
  exact (Traced.Loosens.lift (t.loosens_shaderTypeOf h type)).bind fun _ => .refl _

theorem loosens_bound {storage : StorageClass}
    {resolve resolve' : DeclaredVariable → Slot → Except Fault α}
    (h : ∀ v slot, Loosens limit (resolve v slot) (resolve' v slot)) :
    Traced.Loosens limit (t.bound storage resolve) (t.bound storage resolve') := by
  refine .collect (fun v => .bind (.refl _) fun slot? => ?_) _
  cases slot? with
  | none => exact .refl _
  | some slot => exact (Traced.Loosens.lift (h v slot)).bind fun _ => .refl _

theorem loosens_uniforms (h : limit ≤ limit') (model : ExecutionModel) :
    Traced.Loosens limit (t.uniforms limit model) (t.uniforms limit' model) := by
  refine t.loosens_bound fun v slot => .bind (.refl _) fun type => ?_
  exact (t.loosens_shaderTypeOf h type).bind fun _ => .refl _

theorem loosens_uniformBlocks (h : limit ≤ limit') (model : ExecutionModel) :
    Traced.Loosens limit (t.uniformBlocks limit model) (t.uniformBlocks limit' model) := by
  refine t.loosens_bound fun v slot => .bind (.refl _) fun type => ?_
  cases type with
  | pointer storage target =>
    refine .bind (.refl _) fun entry => .bind (.refl _) fun type => ?_
    cases type with
    | struct members => exact (t.loosens_sizeOf h _).bind fun _ => .refl _
    | _ => exact .refl _
  | _ => exact .refl _

theorem loosens_inputLayout (h : limit ≤ limit') :
    Traced.Loosens limit (t.inputLayout limit) (t.inputLayout limit') := by
  refine .bind (.refl _) fun located => ?_
  refine Traced.Loosens.bind (.mapM (fun p => ?_) _) fun parts => .refl _
  refine .bind (.refl _) fun type => ?_
  exact (Traced.Loosens.lift (t.loosens_layoutOf h type)).bind fun _ => .refl _

end IdTable

theorem Module.loosens_reflect (h : limit ≤ limit') (m : Module) :
    Traced.Loosens limit (m.reflect limit) (m.reflect limit') := by
  refine (m.ids.loosens_located h _ .input).bind fun inputs => ?_
  refine (m.ids.loosens_located h _ .output).bind fun outputs => ?_
  refine (m.ids.loosens_uniforms h _).bind fun uniforms => ?_
  exact (m.ids.loosens_uniformBlocks h _).bind fun blocks => .refl _

theorem loosens_reflect (h : limit ≤ limit') (order : String) (data : ModuleData) :
    Traced.Loosens limit (reflect order limit data) (reflect order limit' data) :=
  .bind (.refl _) fun _ => .bind (.refl _) fun m => m.loosens_reflect h

/-- What is not refused for its depth comes out the same under every greater limit. -/
theorem depth_limit_only_refuses (h : limit ≤ limit') :
    (∀ (order : String) (data : ModuleData),
      (reflect order limit data).result ≠ .error (.typesTooDeep limit) →
        reflect order limit' data = reflect order limit data) ∧
    ∀ t : IdTable,
      (∀ type : TypeDecl,
        (t.sizeOf limit type ≠ .error (.typesTooDeep limit) →
          t.sizeOf limit' type = t.sizeOf limit type) ∧
        (t.shaderTypeOf limit type ≠ .error (.typesTooDeep limit) →
          t.shaderTypeOf limit' type = t.shaderTypeOf limit type) ∧
        (t.layoutOf limit type ≠ .error (.typesTooDeep limit) →
          t.layoutOf limit' type = t.layoutOf limit type)) ∧
      ((t.inputLayout limit).result ≠ .error (.typesTooDeep limit) →
        t.inputLayout limit' = t.inputLayout limit) := by
  refine ⟨fun order data => (loosens_reflect h order data).eq_of_ne, fun t => ⟨fun type => ?_, ?_⟩⟩
  · have hsize := t.loosens_sizeOf h type
    have hshader := t.loosens_shaderTypeOf h type
    have hlayout := t.loosens_layoutOf h type
    exact ⟨hsize.eq_of_ne, hshader.eq_of_ne, hlayout.eq_of_ne⟩
  · exact (t.loosens_inputLayout h).eq_of_ne

def vectorInputTable : IdTable :=
  ⟨#[{}, { type? := some (.float 32) }, { type? := some (.vector 1 3) },
    { type? := some (.pointer .input 2) },
    { decorations := [⟨.location, [0]⟩], var? := some ⟨3, .input, []⟩ }]⟩

def vectorInputData : ModuleData :=
  .words
    [0x07230203, 0x10000, 0, 5, 0,
     0x30016, 1, 32,
     0x40017, 2, 1, 3,
     0x40020, 3, 1, 2,
     0x4003b, 3, 4, 1,
     0x40047, 4, 30, 0]

theorem depth_limit_only_refuses_vector :
    (reflect "little" 0 vectorInputData).result = .error (.typesTooDeep 0) ∧
    (reflect "little" 1 vectorInputData).result ≠ .error (.typesTooDeep 1) ∧
    reflect "little" 64 vectorInputData = reflect "little" 1 vectorInputData ∧
    (vectorInputTable.inputLayout 1).result = .error (.typesTooDeep 1) ∧
    (vectorInputTable.inputLayout 2).result ≠ .error (.typesTooDeep 2) ∧
    vectorInputTable.inputLayout 64 = vectorInputTable.inputLayout 2 ∧
    vectorInputTable.sizeOf 64 (.pointer .input 2) = .ok (some 16) := by
  have hshallow : (reflect "little" 0 vectorInputData).result = .error (.typesTooDeep 0) := by
    decide +kernel
  have hdeep : (reflect "little" 1 vectorInputData).result ≠ .error (.typesTooDeep 1) := by
    decide +kernel
  have hflat : (vectorInputTable.inputLayout 1).result = .error (.typesTooDeep 1) := by
    decide +kernel
  have hlayout : (vectorInputTable.inputLayout 2).result ≠ .error (.typesTooDeep 2) := by
    decide +kernel
  have hsize : vectorInputTable.sizeOf 1 (.pointer .input 2) = .ok (some 16) := by decide
  have hsize' : vectorInputTable.sizeOf 1 (.pointer .input 2) ≠ .error (.typesTooDeep 1) := by
    rw [hsize]
    exact nofun
  obtain ⟨hreflect, htable⟩ := depth_limit_only_refuses (show (1 : Int) ≤ 64 by decide)
  obtain ⟨-, htable'⟩ := depth_limit_only_refuses (show (2 : Int) ≤ 64 by decide)
  exact ⟨hshallow, hdeep, hreflect _ _ hdeep, hflat, hlayout, (htable' _).2 hlayout,
    (((htable _).1 _).1 hsize').trans hsize⟩

end ShaderInterface
