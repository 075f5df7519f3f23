import ShaderInterface.Proofs.GroundTypes
import ShaderInterface.ShaderType.Layout

namespace ShaderInterface

namespace ScalarLayout

/-- What a scalar is, whatever its width. -/
inductive Kind
  | bool
  | signed
  | unsigned
  | float
  deriving DecidableEq

def kind : ScalarLayout → Kind
  | bool => .bool
  | int8 | int16 | int32 | int64 => .signed
  | uint8 | uint16 | uint32 | uint64 => .unsigned
  | float16 | float32 | float64 => .float

end ScalarLayout

/-- The width, if the type is a number, is one that the shading language has a type for. -/
def TypeDecl.FullWidth : TypeDecl → Prop
  | int width _ => width = 32
  | float width => width = 32 ∨ width = 64
  | _ => True

namespace Layout

/-- Both have the same lengths, and their elements are scalars that differ at most in width. -/
def Alike (l l' : Layout) : Prop :=
  l.shape = l'.shape ∧ ∃ s s', l.element = scalar s ∧ l'.element = scalar s' ∧ s.kind = s'.kind

/-- One level for each length around what may have been refused already, the last length
innermost. -/
def stack (lengths : List Int) (inner : Except Fault Layout) : Except Fault Layout :=
  lengths.foldr (fun n inner => do orFault ((← inner).repeat? n)) inner

variable {x y : Except Fault Layout} {l l' : Layout} {n : Int}

theorem orFault_eq_ok_iff {layout? : Option Layout} :
    orFault layout? = .ok l ↔ layout? = some l := by
  cases layout? with
  | none => exact ⟨nofun, nofun⟩
  | some layout => simp [orFault, pure, Except.pure]

theorem eq_of_block?_eq_some {e : Layout} {shape : List Int} (h : block? e shape = some l) :
    l = block e (shape.map Int.toNat) := by
  rw [block?] at h
  split at h
  · exact (Option.some.inj h).symm
  · cases h

theorem eq_of_repeat?_eq_some (h : l.repeat? n = some l') :
    l' = block l.element (n.toNat :: l.shape) := by
  rw [eq_of_block?_eq_some h, List.map_cons, List.map_map]
  exact congrArg (fun lengths => block l.element (n.toNat :: lengths)) (List.map_id' l.shape)

theorem element_of_repeat?_eq_some (h : l.repeat? n = some l') : l'.element = l.element := by
  rw [eq_of_repeat?_eq_some h, element]

theorem shape_of_repeat?_eq_some (h : l.repeat? n = some l') :
    l'.shape = n.toNat :: l.shape := by
  rw [eq_of_repeat?_eq_some h, shape]

theorem size_eq_foldr (l : Layout) : l.size = l.shape.foldr (· * ·) l.element.size := by
  cases l <;> rfl

theorem size_of_repeat?_eq_some (h : l.repeat? n = some l') : l'.size = n.toNat * l.size := by
  rw [size_eq_foldr, element_of_repeat?_eq_some h, shape_of_repeat?_eq_some h, size_eq_foldr l]
  rfl

/-- A level more around both keeps them alike, though it may be too large on one side alone. -/
theorem Alike.of_repeat? {r r' : Layout} (h : l.Alike l') (hr : l.repeat? n = some r)
    (hr' : l'.repeat? n = some r') : r.Alike r' := by
  obtain ⟨hshape, s, s', hs, hs', hkind⟩ := h
  refine ⟨?_, s, s', ?_, ?_, hkind⟩
  · rw [shape_of_repeat?_eq_some hr, shape_of_repeat?_eq_some hr', hshape]
  · exact (element_of_repeat?_eq_some hr).trans hs
  · exact (element_of_repeat?_eq_some hr').trans hs'

theorem stack_error (lengths : List Int) (fault : Fault) :
    stack lengths (.error fault) = .error fault := by
  induction lengths with
  | nil => rfl
  | cons n rest ih =>
    rw [stack, List.foldr_cons, ← stack, ih]
    rfl

theorem settles_stack (lengths : List Int) (l : Layout) :
    Settles (stack lengths (.ok l)) (fun _ => True) (· = .layoutTooLarge) := by
  induction lengths with
  | nil => exact .ok trivial
  | cons n rest ih =>
    refine ih.bind fun inner _ => ?_
    cases inner.repeat? n with
    | none => exact .error rfl
    | some layout => exact .ok trivial

theorem alike_stack (lengths : List Int) (h : ∀ l l', x = .ok l → y = .ok l' → l.Alike l')
    (hl : stack lengths x = .ok l) (hl' : stack lengths y = .ok l') : l.Alike l' := by
  induction lengths generalizing l l' with
  | nil => exact h l l' hl hl'
  | cons n rest ih =>
    obtain ⟨inner, hinner, hrepeat⟩ := bind_eq_ok_iff.1 hl
    obtain ⟨inner', hinner', hrepeat'⟩ := bind_eq_ok_iff.1 hl'
    have hrest := ih hinner hinner'
    exact hrest.of_repeat? (orFault_eq_ok_iff.1 hrepeat) (orFault_eq_ok_iff.1 hrepeat')

end Layout

theorem Layout.block?_vector {count : UInt32} {size : VectorSize}
    (h : (count, size) ∈ VectorSize.table) (s : ScalarLayout) :
    block? (scalar s) [(count.toNat : Int)] = some (block (scalar s) [size.toNat]) := by
  rw [← VectorSize.toNat_of_ofNat? (VectorSize.ofNat?_eq_some_iff.2 h)]
  cases size <;> cases s <;> rfl

theorem BaseType.exists_layout {base : BaseType} (h : base.isOpaque = false) :
    ∃ l, base.layout = .ok l := by
  cases base with
  | scalar | vector => exact ⟨_, rfl⟩
  | image | sampler | shadowSampler => cases h

theorem BaseType.layout_of_isOpaque {base : BaseType} (h : base.isOpaque = true) :
    base.layout = .error (.opaqueLayout base) := by
  cases base with
  | scalar | vector => cases h
  | image | sampler | shadowSampler => rfl

theorem ShaderType.layout_eq_stack (g : ShaderType) :
    g.layout = Layout.stack g.lengths g.innermost.layout := by
  induction g with
  | base type => rfl
  | array element n ih =>
    rw [layout, ih]
    refine bind_congr fun inner => ?_
    cases inner.repeat? n <;> rfl

namespace IdTable

/-- A type and those met on the way to what it is made of: elements of arrays, targets of pointers
and components of vectors. -/
inductive Meets (t : IdTable) : TypeDecl → TypeDecl → Prop
  | here (decl : TypeDecl) : Meets t decl decl
  | element {element length : UInt32} {decl last : TypeDecl} (htype : t.HasType element decl)
      (hmeets : Meets t decl last) : Meets t (.array element length) last
  | target {storage : StorageClass} {target : UInt32} {decl last : TypeDecl}
      (htype : t.HasType target decl) (hmeets : Meets t decl last) :
      Meets t (.pointer storage target) last
  | component {component count : UInt32} {decl last : TypeDecl}
      (htype : t.HasType component decl) (hmeets : Meets t decl last) :
      Meets t (.vector component count) last

variable {t : IdTable} {limit : Int} {n : Nat} {type decl : TypeDecl} {g : ShaderType}
  {kind : ScalarKind} {base : BaseType} {l l' : Layout}

theorem Meets.trans {last : TypeDecl} (h : t.Meets type decl) (h' : t.Meets decl last) :
    t.Meets type last := by
  induction h with
  | here => exact h'
  | element htype _ ih => exact .element htype (ih h')
  | target htype _ ih => exact .target htype (ih h')
  | component htype _ ih => exact .component htype (ih h')

theorem layoutWithin_array {element length count : UInt32} (htype : t.HasType element decl)
    (hlength : t.arrayLength length.toNat = .ok count) :
    t.layoutWithin limit (n + 1) (.array element length) =
      t.layoutWithin limit n decl >>= fun inner =>
        Layout.orFault (inner.repeat? count.toNat) := by
  show (t.typeOf element.toNat >>= fun decl => t.layoutWithin limit n decl >>= fun inner =>
    t.arrayLength length.toNat >>= fun count => Layout.orFault (inner.repeat? count.toNat)) = _
  rw [typeOf_eq_ok_iff.2 htype, hlength]
  rfl

theorem layoutWithin_pointer {storage : StorageClass} {target : UInt32}
    (htype : t.HasType target decl) :
    t.layoutWithin limit (n + 1) (.pointer storage target) = t.layoutWithin limit n decl := by
  show t.typeOf target.toNat >>= t.layoutWithin limit n = _
  rw [typeOf_eq_ok_iff.2 htype]
  rfl

theorem layoutWithin_vector {component count : UInt32} (htype : t.HasType component decl) :
    t.layoutWithin limit (n + 1) (.vector component count) =
      t.layoutWithin limit n decl >>= fun inner =>
        Layout.orFault (Layout.block? inner [(count.toNat : Int)]) := by
  show (t.typeOf component.toNat >>= fun decl => t.layoutWithin limit n decl >>= fun inner =>
    Layout.orFault (Layout.block? inner [(count.toNat : Int)])) = _
  rw [typeOf_eq_ok_iff.2 htype]
  rfl

theorem layoutWithin_matrix {column count : UInt32} (htype : t.HasType column decl) :
    t.layoutWithin limit (n + 1) (.matrix column count) =
      t.layoutWithin limit n decl >>= fun inner =>
        Layout.orFault (inner.repeat? count.toNat) := by
  show (t.typeOf column.toNat >>= fun decl => t.layoutWithin limit n decl >>= fun inner =>
    Layout.orFault (inner.repeat? count.toNat)) = _
  rw [typeOf_eq_ok_iff.2 htype]
  rfl

/-- Both walks come through the same arrays and pointers to the same type, and the walk for the
layout has a level more left there. -/
theorem exists_grounds (h : t.shaderTypeWithin limit n type = .ok g) :
    ∃ decl m, t.Meets type decl ∧ t.Grounds decl g.innermost ∧ ∀ limit' : Int,
      t.layoutWithin limit' (n + 1) type =
        Layout.stack g.lengths (t.layoutWithin limit' (m + 2) decl) := by
  induction n generalizing type g with
  | zero => cases h
  | succ n ih =>
    cases type with
    | array element length =>
      obtain ⟨inner, hinner, h⟩ := bind_eq_ok_iff.1 h
      obtain ⟨g', hg', h⟩ := bind_eq_ok_iff.1 h
      obtain ⟨count, hcount, h⟩ := bind_eq_ok_iff.1 h
      cases h
      have htype := typeOf_eq_ok_iff.1 hinner
      obtain ⟨decl, m, hmeets, hgrounds, hlayout⟩ := ih hg'
      refine ⟨decl, m, .element htype hmeets, hgrounds, fun limit' => ?_⟩
      rw [layoutWithin_array htype hcount, hlayout]
      rfl
    | pointer storage target =>
      obtain ⟨inner, hinner, h⟩ := bind_eq_ok_iff.1 h
      have htype := typeOf_eq_ok_iff.1 hinner
      obtain ⟨decl, m, hmeets, hgrounds, hlayout⟩ := ih h
      refine ⟨decl, m, .target htype hmeets, hgrounds, fun limit' => ?_⟩
      rw [layoutWithin_pointer htype]
      exact hlayout limit'
    | _ =>
      obtain ⟨base, hgrounds, rfl⟩ := exists_grounds_of_link? rfl h
      exact ⟨_, n, .here _, hgrounds, fun _ => rfl⟩

theorem layoutWithin_of_isScalar (hkind : decl.IsScalar kind) (hwide : decl.FullWidth) :
    t.layoutWithin limit (n + 1) decl = .ok (.scalar kind.layout) := by
  cases hkind with
  | bool | single | double => rfl
  | half => rcases hwide with h | h <;> cases h
  | signed width =>
    cases hwide
    rfl
  | unsigned width =>
    cases hwide
    rfl

theorem kind_of_intLayout {width : UInt32} {signed : Bool} {s : ScalarLayout}
    (h : intLayout width signed = .ok s) :
    s.kind = if signed then .signed else .unsigned := by
  rw [intLayout] at h
  cases signed with
  | false =>
    simp only [Bool.false_eq_true, if_false] at h ⊢
    split_ifs at h <;> cases h <;> rfl
  | true =>
    simp only [if_true] at h ⊢
    split_ifs at h <;> cases h <;> rfl

theorem kind_of_layoutWithin (hkind : decl.IsScalar kind)
    (hl : t.layoutWithin limit (n + 1) decl = .ok l) :
    ∃ s, l = .scalar s ∧ s.kind = kind.layout.kind := by
  cases hkind with
  | bool | half | single | double =>
    cases hl
    exact ⟨_, rfl, rfl⟩
  | signed width | unsigned width =>
    obtain ⟨s, hs, hl⟩ := bind_eq_ok_iff.1 hl
    cases hl
    exact ⟨s, rfl, kind_of_intLayout hs⟩

theorem Grounds.layout_of_isOpaque (h : t.Grounds decl base) (hhandle : base.isOpaque = true) :
    t.layoutWithin limit (n + 1) decl = .error (.noLayout decl) ∧
      base.layout = .error (.opaqueLayout base) := by
  refine ⟨?_, BaseType.layout_of_isOpaque hhandle⟩
  cases h with
  | scalar | vector => cases hhandle
  | image | sampledImage => rfl

theorem Grounds.layout_of_not_isOpaque (h : t.Grounds decl base)
    (hhandle : base.isOpaque = false) (hwide : ∀ last, t.Meets decl last → last.FullWidth) :
    t.layoutWithin limit (n + 2) decl = base.layout := by
  cases h with
  | scalar hkind => exact layoutWithin_of_isScalar hkind (hwide _ (.here _))
  | vector htype hkind hsize =>
    have hcomponent := hwide _ (.component htype (.here _))
    rw [layoutWithin_vector htype, layoutWithin_of_isScalar hkind hcomponent]
    show Layout.orFault _ = _
    rw [Layout.block?_vector hsize]
    rfl
  | image h => cases hhandle.symm.trans (BaseType.isOpaque_of_mem_imageTable h)
  | sampledImage _ _ h => cases hhandle.symm.trans (BaseType.isOpaque_of_mem_samplerTable h)

theorem Grounds.alike (h : t.Grounds decl base)
    (hl : t.layoutWithin limit (n + 2) decl = .ok l) (hl' : base.layout = .ok l') :
    l.Alike l' := by
  cases h with
  | scalar hkind =>
    obtain ⟨s, rfl, hs⟩ := kind_of_layoutWithin hkind hl
    cases hl'
    exact ⟨rfl, s, _, rfl, rfl, hs⟩
  | vector htype hkind hsize =>
    rw [layoutWithin_vector htype] at hl
    obtain ⟨inner, hinner, hl⟩ := bind_eq_ok_iff.1 hl
    obtain ⟨s, rfl, hs⟩ := kind_of_layoutWithin hkind hinner
    rw [Layout.block?_vector hsize] at hl
    cases hl
    cases hl'
    exact ⟨rfl, s, _, rfl, rfl, hs⟩
  | image => cases hl
  | sampledImage => cases hl

theorem levels_add_one (h : levels limit ≠ 0) : levels (limit + 1) = levels limit + 1 := by
  unfold levels at *
  omega

end IdTable

/-- The two layouts of a type are the same at full widths, and alike but for the widths at any. -/
theorem layouts_agree {t : IdTable} {limit : Int} {type : TypeDecl} {g : ShaderType}
    (h : t.shaderTypeOf limit type = .ok g) :
    ((∀ decl, t.Meets type decl → decl.FullWidth) →
      if g.innermost.isOpaque = true then
        (∃ decl, t.Meets type decl ∧ t.layoutOf (limit + 1) type = .error (.noLayout decl)) ∧
          g.layout = .error (.opaqueLayout g.innermost)
      else
        t.layoutOf (limit + 1) type = g.layout ∧
          Settles g.layout (fun _ => True) (· = .layoutTooLarge)) ∧
    ∀ l l', t.layoutOf (limit + 1) type = .ok l → g.layout = .ok l' → l.Alike l' := by
  have hlevels : IdTable.levels limit ≠ 0 := by
    intro hzero
    rw [IdTable.shaderTypeOf, hzero] at h
    cases h
  obtain ⟨decl, m, hmeets, hgrounds, hlayout⟩ := IdTable.exists_grounds h
  rw [IdTable.layoutOf, IdTable.levels_add_one hlevels, hlayout, g.layout_eq_stack]
  refine ⟨fun hwide => ?_, fun l l' hl hl' => ?_⟩
  · split_ifs with hhandle
    · obtain ⟨hdecl, hbase⟩ := hgrounds.layout_of_isOpaque hhandle
      rw [hdecl, hbase, Layout.stack_error, Layout.stack_error]
      exact ⟨⟨decl, hmeets, rfl⟩, rfl⟩
    · have hplain : g.innermost.isOpaque = false := Bool.eq_false_iff.2 hhandle
      have hbelow : ∀ last, t.Meets decl last → last.FullWidth := fun last hlast =>
        hwide last (hmeets.trans hlast)
      obtain ⟨l, hl⟩ := BaseType.exists_layout hplain
      rw [hgrounds.layout_of_not_isOpaque hplain hbelow, hl]
      exact ⟨rfl, Layout.settles_stack g.lengths l⟩
  · exact Layout.alike_stack g.lengths (fun l l' => hgrounds.alike) hl hl'

def vectorArrayTable (width : UInt32) : IdTable :=
  ⟨#[{}, { type? := some (.float width) }, { type? := some (.vector 1 3) },
    { const? := some ⟨0, [2]⟩ }, { type? := some (.array 2 3) }]⟩

theorem layouts_agree_vectors :
    (vectorArrayTable 32).layoutOf 3 (.pointer .input 4) =
      .ok (.block (.scalar .float32) [2, 3]) ∧
    (vectorArrayTable 16).layoutOf 3 (.pointer .input 4) =
      .ok (.block (.scalar .float16) [2, 3]) ∧
    (Layout.block (.scalar .float16) [2, 3]).Alike (.block (.scalar .float32) [2, 3]) := by
  have htype (width : UInt32) (hwidth : width = 32 ∨ width = 16) :
      (vectorArrayTable width).shaderTypeOf 2 (.pointer .input 4) =
        .ok (.array (.base (.vector .float .three)) 2) := by
    rcases hwidth with rfl | rfl <;> decide
  have hlayout : ShaderType.layout (.array (.base (.vector .float .three)) 2) =
      .ok (.block (.scalar .float32) [2, 3]) := by decide
  have hnarrow : (vectorArrayTable 16).layoutOf 3 (.pointer .input 4) =
      .ok (.block (.scalar .float16) [2, 3]) := by decide
  have hwide : ∀ decl, (vectorArrayTable 32).Meets (.pointer .input 4) decl → decl.FullWidth := by
    intro decl h
    cases h with
    | here => trivial
    | target harray h =>
      cases harray.unique ⟨_, rfl, rfl⟩
      cases h with
      | here => trivial
      | element hvector h =>
        cases hvector.unique ⟨_, rfl, rfl⟩
        cases h with
        | here => trivial
        | component hfloat h =>
          cases hfloat.unique ⟨_, rfl, rfl⟩
          cases h
          exact .inl rfl
  have hsame := (layouts_agree (htype 32 (.inl rfl))).1 hwide
  rw [if_neg (by decide)] at hsame
  have halike := (layouts_agree (htype 16 (.inr rfl))).2 _ _ hnarrow hlayout
  exact ⟨hsame.1.trans hlayout, hnarrow, halike⟩

end ShaderInterface
