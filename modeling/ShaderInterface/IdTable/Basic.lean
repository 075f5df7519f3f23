import ShaderInterface.Decoration
import ShaderInterface.Fault

namespace ShaderInterface

structure Member where
  name? : Option String := none
  decorations : List Decoration := []
  deriving DecidableEq

structure VariableDecl where
  type : UInt32
  storage : StorageClass
  initializer : List UInt32
  deriving DecidableEq

structure ConstantDecl where
  type : UInt32
  values : List UInt32
  deriving DecidableEq

structure LocalSize where
  x : UInt32
  y : UInt32
  z : UInt32
  deriving DecidableEq

structure Entry where
  name? : Option String := none
  decorations : List Decoration := []
  members : List Member := []
  type? : Option TypeDecl := none
  var? : Option VariableDecl := none
  const? : Option ConstantDecl := none
  /-- The work group size of the function with this id. -/
  localSize? : Option LocalSize := none
  deriving DecidableEq

namespace Entry

/-- Nothing is known but perhaps a work group size. -/
def isBlank (e : Entry) : Bool :=
  { e with localSize? := none } == {}

/-- The first decoration of a kind. -/
def decoration? (e : Entry) (kind : DecorationKind) : Option Decoration :=
  e.decorations.find? (·.kind == kind)

def decorate (e : Entry) (d : Decoration) : Entry :=
  { e with decorations := e.decorations ++ [d] }

/-- Changes a member, after filling the list with blank members up to it. -/
def modifyMember (e : Entry) (index : Nat) (f : Member → Member) : Entry :=
  { e with members := (e.members.rightpad (index + 1) {}).modify index f }

def nameMember (e : Entry) (index : Nat) (name? : Option String) : Entry :=
  e.modifyMember index fun m => { m with name? := name? }

def decorateMember (e : Entry) (index : Nat) (d : Decoration) : Entry :=
  e.modifyMember index fun m => { m with decorations := m.decorations ++ [d] }

end Entry

/-- The entries of all ids below a bound. -/
structure IdTable where
  entries : Array Entry
  deriving DecidableEq

namespace IdTable

def blank (bound : Nat) : IdTable :=
  ⟨Array.replicate bound {}⟩

def size (t : IdTable) : Nat :=
  t.entries.size

def get? (t : IdTable) (id : Int) : Option Entry :=
  if id < 0 then none else t.entries[id.toNat]?

/-- An id outside the table changes nothing. -/
def modify (t : IdTable) (id : UInt32) (f : Entry → Entry) : IdTable :=
  ⟨t.entries.modify id.toNat f⟩

def lookup (t : IdTable) (id : Int) : Except Fault Entry :=
  match t.get? id with
  | some e => .ok e
  | none => .error (.idOutOfBounds id t.size)

def typeOf (t : IdTable) (id : Int) : Except Fault TypeDecl := do
  match (← t.lookup id).type? with
  | some decl => return decl
  | none => throw (.notAType id)

/-- A constant without values does not count. -/
def constantOf (t : IdTable) (id : Int) : Except Fault ConstantDecl := do
  match (← t.lookup id).const? with
  | some ⟨_, []⟩ | none => throw (.notAConstant id)
  | some c => return c

end IdTable

end ShaderInterface
