import Mathlib.Algebra.BigOperators.Group.List.Basic
import ShaderInterface.Proofs.LayoutAgreement
import ShaderInterface.Proofs.TypeGraph

namespace ShaderInterface

/-- The bytes of a scalar type as it declares them; no other type declares any. -/
def TypeDecl.byteWidth? : TypeDecl → Option Nat
  | bool => some 1
  | int width _ | float width => some (width.toNat / 8)
  | _ => none

/-- What lies around a scalar: a row of equal elements, or a vector that keeps its components
whole. -/
inductive Layer
  | row (count : Nat)
  | vector (count : Nat)
  deriving DecidableEq

def Layer.count : Layer → Nat
  | row n | vector n => n

namespace Layout

/-- A block of elements that are blocks themselves. -/
def Nested (l : Layout) : Prop :=
  ∃ e inner, l.element = block e inner

/-- Layers around a scalar, outermost first. A row adds its length to what it repeats; a vector has
what it repeats for its elements. -/
def ofLayers (s : ScalarLayout) : List Layer → Layout
  | [] => scalar s
  | .row n :: rest => block (ofLayers s rest).element (n :: (ofLayers s rest).shape)
  | .vector n :: rest => block (ofLayers s rest) [n]

variable {s : ScalarLayout} {layers : List Layer}

/-- Merged or nested, a layer multiplies the size by its count. -/
theorem size_ofLayers (s : ScalarLayout) (layers : List Layer) :
    (ofLayers s layers).size = (layers.map Layer.count).prod * s.size := by
  induction layers with
  | nil => exact (Nat.one_mul s.size).symm
  | cons layer rest ih =>
    rw [List.map_cons, List.prod_cons, Nat.mul_assoc, ← ih]
    cases layer with
    | row n =>
      rw [size_eq_foldr (ofLayers s rest)]
      rfl
    | vector n => rfl

/-- Only a vector nests, and only around another layer; a row is as nested as what it repeats. -/
theorem nested_ofLayers_cons_iff {layer : Layer} : (ofLayers s (layer :: layers)).Nested ↔
    ((∃ n, layer = .vector n) ∧ layers ≠ []) ∨ (ofLayers s layers).Nested := by
  cases layer with
  | row n => simp [Nested, ofLayers, element]
  | vector n =>
    cases layers with
    | nil => simp [Nested, ofLayers, element]
    | cons inner rest => cases inner <;> simp [Nested, ofLayers, element]

theorem nested_ofLayers_iff : (ofLayers s layers).Nested ↔
    ∃ outer n inner, layers = outer ++ .vector n :: inner ∧ inner ≠ [] := by
  induction layers with
  | nil => simp [Nested, ofLayers, element]
  | cons layer rest ih =>
    rw [nested_ofLayers_cons_iff, ih]
    constructor
    · rintro (⟨⟨n, rfl⟩, hrest⟩ | ⟨outer, n, inner, rfl, hinner⟩)
      · exact ⟨[], n, rest, rfl, hrest⟩
      · exact ⟨layer :: outer, n, inner, rfl, hinner⟩
    · rintro ⟨_ | ⟨first, outer⟩, n, inner, h, hinner⟩
      · cases h
        exact .inl ⟨⟨n, rfl⟩, hinner⟩
      · cases h
        exact .inr ⟨outer, n, inner, rfl, hinner⟩

end Layout

namespace IdTable

/-- A type that is made of another through these layers, outermost first. A pointer adds none. -/
inductive Descends (t : IdTable) : TypeDecl → List Layer → TypeDecl → Prop
  | here (decl : TypeDecl) : Descends t decl [] decl
  | element {element length count : UInt32} {decl last : TypeDecl} {layers : List Layer}
      (htype : t.HasType element decl) (hlength : t.HasLength length count)
      (h : Descends t decl layers last) :
      Descends t (.array element length) (.row count.toNat :: layers) last
  | target {storage : StorageClass} {target : UInt32} {decl last : TypeDecl} {layers : List Layer}
      (htype : t.HasType target decl) (h : Descends t decl layers last) :
      Descends t (.pointer storage target) layers last
  | column {column count : UInt32} {decl last : TypeDecl} {layers : List Layer}
      (htype : t.HasType column decl) (h : Descends t decl layers last) :
      Descends t (.matrix column count) (.row count.toNat :: layers) last
  | component {component count : UInt32} {decl last : TypeDecl} {layers : List Layer}
      (htype : t.HasType component decl) (h : Descends t decl layers last) :
      Descends t (.vector component count) (.vector count.toNat :: layers) last

variable {t : IdTable} {limit : Int} {n bytes bytes' : Nat} {type decl decl' : TypeDecl}
  {layers layers' : List Layer} {l : Layout}

theorem Descends.unique (h : t.Descends type layers decl) (h' : t.Descends type layers' decl')
    (hbytes : decl.byteWidth? = some bytes) (hbytes' : decl'.byteWidth? = some bytes') :
    layers = layers' ∧ decl = decl' := by
  induction h generalizing layers' with
  | here =>
    cases h' with
    | here => exact ⟨rfl, rfl⟩
    | element | target | column | component => cases hbytes
  | element htype hlength _ ih =>
    cases h' with
    | here => cases hbytes'
    | element htype' hlength' h' =>
      cases htype.unique htype'
      cases hlength.unique hlength'
      exact (ih h' hbytes).imp_left (congrArg _)
  | target htype _ ih =>
    cases h' with
    | here => cases hbytes'
    | target htype' h' =>
      cases htype.unique htype'
      exact ih h' hbytes
  | column htype _ ih | component htype _ ih =>
    cases h' with
    | here => cases hbytes'
    | _ htype' h' =>
      cases htype.unique htype'
      exact (ih h' hbytes).imp_left (congrArg _)

theorem size_of_floatLayout {width : UInt32} {s : ScalarLayout} (h : floatLayout width = .ok s) :
    s.size = width.toNat / 8 := by
  rw [floatLayout] at h
  split_ifs at h <;> cases h <;> subst width <;> rfl

theorem size_of_intLayout {width : UInt32} {signed : Bool} {s : ScalarLayout}
    (h : intLayout width signed = .ok s) : s.size = width.toNat / 8 := by
  rw [intLayout] at h
  split_ifs at h <;> cases h <;> subst width <;> rfl

/-- A layout that is found is made of the layers down to a scalar of the width it declares. -/
theorem exists_descends (h : t.layoutWithin limit n type = .ok l) :
    ∃ layers decl s, t.Descends type layers decl ∧ decl.byteWidth? = some s.size ∧
      l = Layout.ofLayers s layers := by
  induction n generalizing type l with
  | zero => cases h
  | succ n ih =>
    cases type with
    | array element length =>
      obtain ⟨inner, hinner, h⟩ := bind_eq_ok_iff.1 h
      obtain ⟨found, hfound, h⟩ := bind_eq_ok_iff.1 h
      obtain ⟨count, hcount, h⟩ := bind_eq_ok_iff.1 h
      obtain ⟨layers, decl, s, hdescends, hbytes, rfl⟩ := ih hfound
      exact ⟨_, decl, s,
        .element (typeOf_eq_ok_iff.1 hinner) (arrayLength_eq_ok_iff.1 hcount) hdescends, hbytes,
        Layout.eq_of_repeat?_eq_some (Layout.orFault_eq_ok_iff.1 h)⟩
    | pointer storage target =>
      obtain ⟨inner, hinner, h⟩ := bind_eq_ok_iff.1 h
      obtain ⟨layers, decl, s, hdescends, hbytes, rfl⟩ := ih h
      exact ⟨layers, decl, s, .target (typeOf_eq_ok_iff.1 hinner) hdescends, hbytes, rfl⟩
    | matrix column count =>
      obtain ⟨inner, hinner, h⟩ := bind_eq_ok_iff.1 h
      obtain ⟨found, hfound, h⟩ := bind_eq_ok_iff.1 h
      obtain ⟨layers, decl, s, hdescends, hbytes, rfl⟩ := ih hfound
      exact ⟨_, decl, s, .column (typeOf_eq_ok_iff.1 hinner) hdescends, hbytes,
        Layout.eq_of_repeat?_eq_some (Layout.orFault_eq_ok_iff.1 h)⟩
    | vector component count =>
      obtain ⟨inner, hinner, h⟩ := bind_eq_ok_iff.1 h
      obtain ⟨found, hfound, h⟩ := bind_eq_ok_iff.1 h
      obtain ⟨layers, decl, s, hdescends, hbytes, rfl⟩ := ih hfound
      exact ⟨_, decl, s, .component (typeOf_eq_ok_iff.1 hinner) hdescends, hbytes,
        Layout.eq_of_block?_eq_some (Layout.orFault_eq_ok_iff.1 h)⟩
    | bool =>
      cases h
      exact ⟨[], _, .bool, .here _, rfl, rfl⟩
    | int width signed =>
      obtain ⟨s, hs, h⟩ := bind_eq_ok_iff.1 h
      cases h
      exact ⟨[], _, s, .here _, congrArg some (size_of_intLayout hs).symm, rfl⟩
    | float width =>
      obtain ⟨s, hs, h⟩ := bind_eq_ok_iff.1 h
      cases h
      exact ⟨[], _, s, .here _, congrArg some (size_of_floatLayout hs).symm, rfl⟩
    | void | image | sampler | sampledImage | struct => cases h

end IdTable

/-- A layout is as large as the scalar at the bottom times every count on the way. -/
theorem layout_size_multiplies {t : IdTable} {limit : Int} {type : TypeDecl} {l : Layout}
    (h : t.layoutOf limit type = .ok l) :
    (∃ layers decl bytes, t.Descends type layers decl ∧ decl.byteWidth? = some bytes) ∧
    ∀ layers decl bytes, t.Descends type layers decl → decl.byteWidth? = some bytes →
      l.size = (layers.map Layer.count).prod * bytes ∧
      (l.Nested ↔ ∃ outer n inner, layers = outer ++ .vector n :: inner ∧ inner ≠ []) := by
  obtain ⟨layers, decl, s, hdescends, hscalar, rfl⟩ := IdTable.exists_descends h
  refine ⟨⟨layers, decl, s.size, hdescends, hscalar⟩, fun layers' decl' bytes h' hbytes => ?_⟩
  obtain ⟨rfl, rfl⟩ := hdescends.unique h' hscalar hbytes
  cases hscalar.symm.trans hbytes
  exact ⟨Layout.size_ofLayers s layers, Layout.nested_ofLayers_iff⟩

def arrayComponentTable : IdTable :=
  ⟨#[{}, { type? := some (.float 32) }, { const? := some ⟨0, [3]⟩ },
    { type? := some (.array 1 2) }, { type? := some (.vector 3 2) },
    { type? := some (.matrix 4 4) }]⟩

theorem layout_size_multiplies_nested :
    arrayComponentTable.layoutOf 4 (.pointer .input 5) =
      .ok (.block (.block (.scalar .float32) [3]) [4, 2]) ∧
    (Layout.block (.block (.scalar .float32) [3]) [4, 2]).size = 4 * 2 * 3 * 4 ∧
    (Layout.block (.block (.scalar .float32) [3]) [4, 2]).Nested := by
  have hlayout : arrayComponentTable.layoutOf 4 (.pointer .input 5) =
      .ok (.block (.block (.scalar .float32) [3]) [4, 2]) := by decide
  have hlength : arrayComponentTable.HasLength 2 3 := ⟨_, _, _, rfl, rfl⟩
  have harray : arrayComponentTable.Descends (.array 1 2) [.row 3] (.float 32) :=
    .element ⟨_, rfl, rfl⟩ hlength (.here _)
  have hdescends : arrayComponentTable.Descends (.pointer .input 5)
      [.row 4, .vector 2, .row 3] (.float 32) :=
    .target ⟨_, rfl, rfl⟩ (.column ⟨_, rfl, rfl⟩ (.component ⟨_, rfl, rfl⟩ harray))
  obtain ⟨hsize, hnested⟩ := (layout_size_multiplies hlayout).2 _ _ 4 hdescends rfl
  exact ⟨hlayout, hsize, hnested.2 ⟨[.row 4], 2, [.row 3], rfl, List.cons_ne_nil _ _⟩⟩

/-- Arrays for the columns of a matrix are no more than further lengths. -/
theorem layout_of_arrayColumns :
    arrayComponentTable.HasType 3 (.array 1 2) ∧
    arrayComponentTable.layoutOf 2 (.matrix 3 2) = .ok (.block (.scalar .float32) [2, 3]) ∧
    ¬ (Layout.block (.scalar .float32) [2, 3]).Nested := by
  refine ⟨⟨_, rfl, rfl⟩, by decide, ?_⟩
  rintro ⟨e, inner, h⟩
  cases h

end ShaderInterface
