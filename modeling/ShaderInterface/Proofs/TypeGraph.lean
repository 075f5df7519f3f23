import ShaderInterface.Proofs.ScanContents

namespace ShaderInterface

namespace TypeDecl

/-- The ids of the types that make up the size of a type. -/
def parts : TypeDecl → List UInt32
  | array element _ => [element]
  | pointer _ target => [target]
  | struct members => members
  | _ => []

/-- The id behind which an array has its element and a pointer its target. -/
def link? : TypeDecl → Option UInt32
  | array element _ => some element
  | pointer _ target => some target
  | _ => none

def lengthId? : TypeDecl → Option UInt32
  | array _ length => some length
  | _ => none

end TypeDecl

namespace IdTable

/-- The id has a constant that begins with `count`. -/
def HasLength (t : IdTable) (id count : UInt32) : Prop :=
  ∃ e type rest, t.get? id.toNat = some e ∧ e.const? = some ⟨type, count :: rest⟩

/-- The type `node` occurs at this depth in the tree that a type unfolds to. -/
inductive Unfolds (t : IdTable) : TypeDecl → Nat → TypeDecl → Prop
  | root (type : TypeDecl) : Unfolds t type 0 type
  | part {type decl node : TypeDecl} {id : UInt32} {depth : Nat} (hid : id ∈ type.parts)
      (htype : t.HasType id decl) (h : Unfolds t decl depth node) :
      Unfolds t type (depth + 1) node

def next? (t : IdTable) (type : TypeDecl) : Option TypeDecl :=
  type.link?.bind fun id => (t.get? id.toNat).bind (·.type?)

/-- The type that is reached from another through `k` arrays and pointers. -/
def chain (t : IdTable) : (k : Nat) → TypeDecl → Option TypeDecl
  | 0, type => some type
  | k + 1, type => (t.next? type).bind (t.chain k)

def lengthIds (t : IdTable) (k : Nat) (type : TypeDecl) : List UInt32 :=
  (List.range k).filterMap fun j => (t.chain j type).bind TypeDecl.lengthId?

variable {t : IdTable} {id count : UInt32} {i j k depth depth' : Nat} {type decl node : TypeDecl}

theorem constantOf_eq_ok_iff {decl : ConstantDecl} :
    t.constantOf id.toNat = .ok decl ↔
      ∃ e, t.get? id.toNat = some e ∧ e.const? = some decl ∧ decl.values ≠ [] := by
  rw [constantOf, bind_eq_ok_iff]
  refine exists_congr fun e => and_congr lookup_eq_ok_iff ?_
  rcases e.const? with _ | ⟨type, _ | ⟨first, rest⟩⟩
  · simp [throw, throwThe, MonadExceptOf.throw]
  · simp only [throw, throwThe, MonadExceptOf.throw, reduceCtorEq, Option.some.injEq, false_iff]
    rintro ⟨rfl, hvalues⟩
    exact hvalues rfl
  · simp only [pure, Except.pure, Except.ok.injEq, Option.some.injEq, iff_self_and]
    rintro rfl
    exact List.cons_ne_nil first rest

theorem arrayLength_eq_ok_iff : t.arrayLength id.toNat = .ok count ↔ t.HasLength id count := by
  rw [arrayLength, bind_eq_ok_iff]
  constructor
  · rintro ⟨⟨type, values⟩, hconst, hcount⟩
    obtain ⟨e, he, hdecl, hvalues⟩ := constantOf_eq_ok_iff.1 hconst
    obtain ⟨first, rest, rfl⟩ := List.exists_cons_of_ne_nil hvalues
    cases hcount
    exact ⟨e, type, rest, he, hdecl⟩
  · rintro ⟨e, type, rest, he, hdecl⟩
    exact ⟨_, constantOf_eq_ok_iff.2 ⟨e, he, hdecl, List.cons_ne_nil _ _⟩, rfl⟩

theorem HasLength.unique {count' : UInt32} (h : t.HasLength id count)
    (h' : t.HasLength id count') : count = count' := by
  rw [← arrayLength_eq_ok_iff] at h h'
  exact Except.ok.inj (h.symm.trans h')

theorem settles_hasType (t : IdTable) (id : UInt32) :
    Settles (t.typeOf id.toNat) (t.HasType id) fun _ => ∀ decl, ¬ t.HasType id decl :=
  .of_eq_ok_iff fun _ => typeOf_eq_ok_iff

theorem settles_hasLength (t : IdTable) (id : UInt32) :
    Settles (t.arrayLength id.toNat) (t.HasLength id) fun _ => ∀ count, ¬ t.HasLength id count :=
  .of_eq_ok_iff fun _ => arrayLength_eq_ok_iff

theorem Unfolds.trans (h : t.Unfolds type depth decl) (h' : t.Unfolds decl depth' node) :
    t.Unfolds type (depth + depth') node := by
  induction h with
  | root => simpa using h'
  | part hid htype _ ih =>
    rw [Nat.succ_add]
    exact .part hid htype (ih h')

/-- A type that occurs below itself occurs at ever greater depths. -/
theorem Unfolds.exists_deeper (h : t.Unfolds type (depth + 1) type) (n : Nat) :
    ∃ depth', n ≤ depth' ∧ t.Unfolds type depth' type := by
  induction n with
  | zero => exact ⟨0, Nat.le_refl 0, .root type⟩
  | succ n ih =>
    obtain ⟨depth', hle, h'⟩ := ih
    exact ⟨depth + 1 + depth', by omega, h.trans h'⟩

theorem next?_eq_some_iff :
    t.next? type = some decl ↔ ∃ id, type.link? = some id ∧ t.HasType id decl := by
  simp only [next?, HasType, Option.bind_eq_some_iff]

theorem next?_of_link? (h : type.link? = some id) (htype : t.HasType id decl) :
    t.next? type = some decl :=
  next?_eq_some_iff.2 ⟨id, h, htype⟩

theorem next?_eq_none_of_untyped (h : type.link? = some id)
    (huntyped : ∀ decl, ¬ t.HasType id decl) : t.next? type = none := by
  rw [Option.eq_none_iff_forall_ne_some]
  intro decl hnext
  obtain ⟨id', hid', htype⟩ := next?_eq_some_iff.1 hnext
  cases h.symm.trans hid'
  exact huntyped decl htype

theorem next?_eq_none_of_link? (h : type.link? = none) : t.next? type = none := by
  rw [next?, h, Option.bind_none]

theorem chain_zero (t : IdTable) (type : TypeDecl) : t.chain 0 type = some type := rfl

theorem chain_succ_of_next? (h : t.next? type = some decl) (k : Nat) :
    t.chain (k + 1) type = t.chain k decl := by
  rw [chain, h, Option.bind_some]

theorem chain_succ_eq_none (h : t.next? type = none) (k : Nat) : t.chain (k + 1) type = none := by
  rw [chain, h, Option.bind_none]

theorem chain_add (t : IdTable) (i j : Nat) (type : TypeDecl) :
    t.chain (i + j) type = (t.chain i type).bind (t.chain j) := by
  induction i generalizing type with
  | zero => rw [Nat.zero_add, chain, Option.bind_some]
  | succ i ih =>
    rw [Nat.succ_add]
    cases h : t.next? type with
    | none => rw [chain_succ_eq_none h, chain_succ_eq_none h, Option.bind_none]
    | some decl => rw [chain_succ_of_next? h, chain_succ_of_next? h, ih]

theorem chain_succ' (t : IdTable) (k : Nat) (type : TypeDecl) :
    t.chain (k + 1) type = (t.chain k type).bind t.next? := by
  rw [chain_add]
  refine congrArg _ (funext fun decl => ?_)
  rw [chain]
  exact Option.bind_fun_some _

theorem exists_chain_of_le (h : j ≤ k) (hk : t.chain k type = some decl) :
    ∃ decl', t.chain j type = some decl' := by
  obtain ⟨d, rfl⟩ := Nat.exists_eq_add_of_le h
  rw [chain_add] at hk
  obtain ⟨decl', hj, -⟩ := Option.bind_eq_some_iff.1 hk
  exact ⟨decl', hj⟩

theorem exists_link_of_lt (h : j < k) (hk : t.chain k type = some decl) :
    ∃ decl', t.chain j type = some decl' ∧ decl'.link?.isSome = true := by
  obtain ⟨next, hnext⟩ := exists_chain_of_le h hk
  rw [chain_succ'] at hnext
  obtain ⟨decl', hj, hnext⟩ := Option.bind_eq_some_iff.1 hnext
  obtain ⟨id, hid, -⟩ := next?_eq_some_iff.1 hnext
  exact ⟨decl', hj, by rw [hid]; rfl⟩

/-- A chain that comes back to one of its types goes on for ever. -/
theorem exists_chain_of_cycle (hlt : i < j) (hi : t.chain i type = some decl)
    (hj : t.chain j type = some decl) (k : Nat) : ∃ decl', t.chain k type = some decl' := by
  obtain ⟨d, rfl⟩ := Nat.exists_eq_add_of_lt hlt
  have hround : t.chain (d + 1) decl = some decl := by
    rwa [Nat.add_assoc, chain_add, hi, Option.bind_some] at hj
  -- One round leads back to where it began, and so do any number of them.
  have hrounds : ∀ n, t.chain (n * (d + 1)) decl = some decl := by
    intro n
    induction n with
    | zero => rw [Nat.zero_mul, chain]
    | succ n ih => rw [Nat.succ_mul, chain_add, ih, Option.bind_some, hround]
  have hfar : t.chain (i + k * (d + 1)) type = some decl := by
    rw [chain_add, hi, Option.bind_some, hrounds]
  refine exists_chain_of_le ?_ hfar
  calc k = k * 1 := (Nat.mul_one k).symm
    _ ≤ k * (d + 1) := Nat.mul_le_mul_left k (Nat.le_add_left 1 d)
    _ ≤ i + k * (d + 1) := Nat.le_add_left _ i

theorem lengthIds_succ (h : t.next? type = some decl) (k : Nat) :
    t.lengthIds (k + 1) type = type.lengthId?.toList ++ t.lengthIds k decl := by
  rw [lengthIds, List.range_succ_eq_map, List.filterMap_cons, List.filterMap_map, chain_zero,
    Option.bind_some]
  have hrest : ((fun j => (t.chain j type).bind TypeDecl.lengthId?) ∘ Nat.succ) =
      fun j => (t.chain j decl).bind TypeDecl.lengthId? :=
    funext fun j => congrArg (Option.bind · TypeDecl.lengthId?) (chain_succ_of_next? h j)
  rw [hrest]
  cases type.lengthId? <;> rfl

end IdTable

end ShaderInterface
