import ShaderInterface.Proofs.TypeGraph

namespace ShaderInterface

/-- The scalars of the shading language. Integers count whatever their width. -/
inductive TypeDecl.IsScalar : TypeDecl → ScalarKind → Prop
  | bool : IsScalar .bool .bool
  | half : IsScalar (.float 16) .float
  | single : IsScalar (.float 32) .float
  | double : IsScalar (.float 64) .double
  | signed (width : UInt32) : IsScalar (.int width true) .int
  | unsigned (width : UInt32) : IsScalar (.int width false) .uint

def VectorSize.table : List (UInt32 × VectorSize) :=
  [(2, .two), (3, .three), (4, .four)]

namespace BaseType

/-- The images of the shading language, by dimension, layers and multiple samples. -/
def imageTable : List ((Dimension × Bool × Bool) × BaseType) :=
  [((.oneD, false, false), .image .oneD),
   ((.oneD, true, false), .image .oneDArray),
   ((.twoD, false, false), .image .twoD),
   ((.twoD, true, false), .image .twoDArray),
   ((.twoD, false, true), .image .twoDMultisampled),
   ((.twoD, true, true), .image .twoDMultisampledArray),
   ((.threeD, false, false), .image .threeD),
   ((.cube, false, false), .image .cube),
   ((.cube, true, false), .image .cubeArray),
   ((.rect, false, false), .image .rect),
   ((.buffer, false, false), .image .buffer)]

/-- Its samplers, by dimension, depth, layers and multiple samples. -/
def samplerTable : List ((Dimension × Bool × Bool × Bool) × BaseType) :=
  [((.oneD, false, false, false), .sampler .oneD),
   ((.oneD, true, false, false), .shadowSampler .oneD rfl),
   ((.oneD, false, true, false), .sampler .oneDArray),
   ((.oneD, true, true, false), .shadowSampler .oneDArray rfl),
   ((.twoD, false, false, false), .sampler .twoD),
   ((.twoD, true, false, false), .shadowSampler .twoD rfl),
   ((.twoD, false, true, false), .sampler .twoDArray),
   ((.twoD, true, true, false), .shadowSampler .twoDArray rfl),
   ((.twoD, false, false, true), .sampler .twoDMultisampled),
   ((.twoD, false, true, true), .sampler .twoDMultisampledArray),
   ((.threeD, false, false, false), .sampler .threeD),
   ((.cube, false, false, false), .sampler .cube),
   ((.cube, true, false, false), .shadowSampler .cube rfl),
   ((.cube, false, true, false), .sampler .cubeArray),
   ((.cube, true, true, false), .shadowSampler .cubeArray rfl),
   ((.rect, false, false, false), .sampler .rect),
   ((.rect, true, false, false), .shadowSampler .rect rfl),
   ((.buffer, false, false, false), .sampler .buffer)]

theorem mem_imageTable_iff {dimension : Dimension} {arrayed multisampled : Bool}
    {base : BaseType} : ((dimension, arrayed, multisampled), base) ∈ imageTable ↔
      (ImageShape.ofImage? dimension arrayed multisampled).map image = some base := by
  constructor
  · intro h
    have hall : ∀ row ∈ imageTable,
        (ImageShape.ofImage? row.1.1 row.1.2.1 row.1.2.2).map image = some row.2 := by decide
    exact hall _ h
  · intro h
    cases dimension <;> cases arrayed <;> cases multisampled <;> cases h <;> decide

theorem mem_samplerTable_iff {dimension : Dimension} {depth arrayed multisampled : Bool}
    {base : BaseType} : ((dimension, depth, arrayed, multisampled), base) ∈ samplerTable ↔
      (ImageShape.ofImage? dimension arrayed multisampled).bind (sampler? depth) = some base := by
  constructor
  · intro h
    have hall : ∀ row ∈ samplerTable, (ImageShape.ofImage? row.1.1 row.1.2.2.1
        row.1.2.2.2).bind (sampler? row.1.2.1) = some row.2 := by decide
    exact hall _ h
  · intro h
    cases dimension <;> cases depth <;> cases arrayed <;> cases multisampled <;> cases h <;>
      decide

theorem isOpaque_of_mem_imageTable {key : Dimension × Bool × Bool} {base : BaseType}
    (h : (key, base) ∈ imageTable) : base.isOpaque = true := by
  have hall : ∀ entry ∈ imageTable, entry.2.isOpaque = true := by decide
  exact hall _ h

theorem isOpaque_of_mem_samplerTable {key : Dimension × Bool × Bool × Bool} {base : BaseType}
    (h : (key, base) ∈ samplerTable) : base.isOpaque = true := by
  have hall : ∀ entry ∈ samplerTable, entry.2.isOpaque = true := by decide
  exact hall _ h

end BaseType

open BaseType

variable {decl type : TypeDecl} {kind : ScalarKind} {base : BaseType} {count : UInt32}
  {size : VectorSize}

theorem TypeDecl.scalarKind_eq_ok_iff : decl.scalarKind = .ok kind ↔ decl.IsScalar kind := by
  constructor
  · intro h
    cases decl with
    | bool =>
      cases h
      exact .bool
    | float width =>
      rw [scalarKind] at h
      split_ifs at h with hsingle hdouble
      · cases h
        rcases hsingle with rfl | rfl
        · exact .half
        · exact .single
      · cases h
        exact hdouble ▸ .double
    | int width signed =>
      cases signed with
      | true =>
        cases h
        exact .signed width
      | false =>
        cases h
        exact .unsigned width
    | _ => cases h
  · intro h
    cases h <;> rfl

theorem VectorSize.toNat_of_ofNat? {n : Nat} (h : ofNat? n = some size) : size.toNat = n := by
  simpa using List.find?_some h

theorem VectorSize.ofNat?_eq_some_iff : ofNat? count.toNat = some size ↔ (count, size) ∈ table := by
  constructor
  · intro h
    have hcount : count = UInt32.ofNat size.toNat := by
      rw [toNat_of_ofNat? h, UInt32.ofNat_toNat]
    rw [hcount]
    cases size <;> decide
  · intro h
    have hall : ∀ entry ∈ table, ofNat? entry.1.toNat = some entry.2 := by decide
    exact hall _ h

namespace IdTable

/-- What a type without levels of its own is called in the shading language. -/
inductive Grounds (t : IdTable) : TypeDecl → BaseType → Prop
  | scalar {decl : TypeDecl} {kind : ScalarKind} (hkind : decl.IsScalar kind) :
    Grounds t decl (.scalar kind)
  | vector {component count : UInt32} {decl : TypeDecl} {kind : ScalarKind} {size : VectorSize}
    (htype : t.HasType component decl) (hkind : decl.IsScalar kind)
    (hsize : (count, size) ∈ VectorSize.table) :
    Grounds t (.vector component count) (.vector kind size)
  | image {i : ImageDecl} {base : BaseType}
    (h : ((i.dimension, i.arrayed, i.multisampled), base) ∈ imageTable) : Grounds t (.image i) base
  | sampledImage {id : UInt32} {i : ImageDecl} {base : BaseType} (htype : t.HasType id (.image i))
    (hsampled : i.sampled = true)
    (h : ((i.dimension, i.depth, i.arrayed, i.multisampled), base) ∈ samplerTable) :
    Grounds t (.sampledImage id) base

def ground (t : IdTable) : TypeDecl → Except Fault BaseType
  | .image i => imageType i
  | .sampledImage id => do samplerType (← t.typeOf id.toNat)
  | .sampler => throw .separateSampler
  | .vector component count => do vectorType (← t.typeOf component.toNat) count
  | type => return .scalar (← type.scalarKind)

variable {t : IdTable} {limit : Int} {n : Nat}

theorem vectorType_eq_ok_iff :
    vectorType decl count = .ok base ↔ ∃ kind size, decl.IsScalar kind ∧
      (count, size) ∈ VectorSize.table ∧ base = .vector kind size := by
  rw [vectorType, bind_eq_ok_iff]
  refine exists_congr fun kind => ?_
  simp only [TypeDecl.scalarKind_eq_ok_iff, ← VectorSize.ofNat?_eq_some_iff]
  cases VectorSize.ofNat? count.toNat with
  | none => simp [throw, throwThe, MonadExceptOf.throw]
  | some size => simp [pure, Except.pure, eq_comm]

theorem imageType_eq_ok_iff {i : ImageDecl} :
    imageType i = .ok base ↔ ((i.dimension, i.arrayed, i.multisampled), base) ∈ imageTable := by
  rw [mem_imageTable_iff, imageType]
  cases ImageShape.ofImage? i.dimension i.arrayed i.multisampled with
  | none => simp [throw, throwThe, MonadExceptOf.throw]
  | some shape => simp [pure, Except.pure]

theorem samplerType_image_eq_ok_iff {i : ImageDecl} :
    samplerType (.image i) = .ok base ↔ i.sampled = true ∧
      ((i.dimension, i.depth, i.arrayed, i.multisampled), base) ∈ samplerTable := by
  rw [mem_samplerTable_iff, samplerType]
  cases i.sampled with
  | false => simp [throw, throwThe, MonadExceptOf.throw]
  | true =>
    cases (ImageShape.ofImage? i.dimension i.arrayed i.multisampled).bind (sampler? i.depth) with
    | none => simp [throw, throwThe, MonadExceptOf.throw]
    | some type => simp [pure, Except.pure]

theorem exists_image_of_samplerType (h : samplerType decl = .ok base) :
    ∃ i, decl = .image i := by
  cases decl with
  | image i => exact ⟨i, rfl⟩
  | _ => cases h

theorem ground_eq_ok_iff : t.ground type = .ok base ↔ t.Grounds type base := by
  constructor
  · intro h
    cases type with
    | image i => exact .image (imageType_eq_ok_iff.1 h)
    | sampledImage id =>
      obtain ⟨image, himage, h⟩ := bind_eq_ok_iff.1 h
      obtain ⟨i, rfl⟩ := exists_image_of_samplerType h
      obtain ⟨hsampled, h⟩ := samplerType_image_eq_ok_iff.1 h
      exact .sampledImage (typeOf_eq_ok_iff.1 himage) hsampled h
    | sampler => cases h
    | vector component count =>
      obtain ⟨decl, hdecl, h⟩ := bind_eq_ok_iff.1 h
      obtain ⟨kind, size, hkind, hsize, rfl⟩ := vectorType_eq_ok_iff.1 h
      exact .vector (typeOf_eq_ok_iff.1 hdecl) hkind hsize
    | _ =>
      obtain ⟨kind, hkind, h⟩ := bind_eq_ok_iff.1 h
      cases h
      exact .scalar (TypeDecl.scalarKind_eq_ok_iff.1 hkind)
  · intro h
    cases h with
    | scalar hkind => cases hkind <;> rfl
    | vector htype hkind hsize =>
      refine bind_eq_ok_iff.2 ⟨_, typeOf_eq_ok_iff.2 htype, ?_⟩
      exact vectorType_eq_ok_iff.2 ⟨_, _, hkind, hsize, rfl⟩
    | image h => exact imageType_eq_ok_iff.2 h
    | sampledImage htype hsampled h =>
      refine bind_eq_ok_iff.2 ⟨_, typeOf_eq_ok_iff.2 htype, ?_⟩
      exact samplerType_image_eq_ok_iff.2 ⟨hsampled, h⟩

theorem shaderTypeWithin_of_link? (h : type.link? = none) :
    t.shaderTypeWithin limit (n + 1) type = t.ground type >>= fun base => pure (.base base) := by
  cases type with
  | array | pointer => cases h
  | image | sampler => rfl
  | sampledImage id =>
    show _ = (t.typeOf id.toNat >>= samplerType) >>= fun base => pure (ShaderType.base base)
    rw [bind_assoc]
    rfl
  | vector component count =>
    show _ = (t.typeOf component.toNat >>= fun decl => vectorType decl count) >>=
      fun base => pure (ShaderType.base base)
    rw [bind_assoc]
    rfl
  | void | bool | int | float | matrix | struct =>
    show _ = (TypeDecl.scalarKind _ >>= fun kind => pure (BaseType.scalar kind)) >>=
      fun base => pure (ShaderType.base base)
    rw [bind_assoc]
    rfl

theorem exists_grounds_of_link? {g : ShaderType} (hlink : type.link? = none)
    (h : t.shaderTypeWithin limit (n + 1) type = .ok g) :
    ∃ base, t.Grounds type base ∧ g = .base base := by
  rw [shaderTypeWithin_of_link? hlink] at h
  obtain ⟨base, hbase, h⟩ := bind_eq_ok_iff.1 h
  cases h
  exact ⟨base, ground_eq_ok_iff.1 hbase, rfl⟩

end IdTable

end ShaderInterface
