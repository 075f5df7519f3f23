import ShaderInterface.IdTable.ShaderType
import ShaderInterface.IdTable.Size
import ShaderInterface.Traced

namespace ShaderInterface

/-- A variable that reaches the shader at a location, or leaves it there. -/
structure LocatedVariable where
  model : ExecutionModel
  location : Int
  name? : Option String
  type : ShaderType
  deriving DecidableEq

structure Slot where
  binding : Int
  set : Int
  deriving DecidableEq

structure Uniform where
  model : ExecutionModel
  slot : Slot
  name? : Option String
  type : ShaderType
  deriving DecidableEq

structure UniformBlock where
  model : ExecutionModel
  slot : Slot
  name? : Option String
  size : Nat
  deriving DecidableEq

structure DeclaredVariable where
  id : Nat
  entry : Entry
  decl : VariableDecl
  deriving DecidableEq

def Entry.firstLiteral (e : Entry) (kind : DecorationKind) : Except Fault (Option Int) :=
  match e.decoration? kind with
  | none => return none
  | some ⟨_, value :: _⟩ => return some value
  | some ⟨_, []⟩ => throw (.valueMissing kind)

namespace IdTable

/-- The variables of a storage class, by ascending id. -/
def declaredVariables (t : IdTable) (storage : StorageClass) : List DeclaredVariable :=
  t.entries.toList.zipIdx.filterMap fun (entry, id) =>
    (entry.var?.filter (·.storage == storage)).map (⟨id, entry, ·⟩)

def location? (v : DeclaredVariable) : Traced (Option (Int × DeclaredVariable)) := do
  match ← v.entry.firstLiteral .location with
  | some n => return some (n, v)
  | none =>
    Traced.report [.locationMissing v.decl.storage v.id]
    return none

def locatedVariables (t : IdTable) (storage : StorageClass) :
    Traced (List (Int × DeclaredVariable)) :=
  Traced.collect location? (t.declaredVariables storage)

def located (t : IdTable) (limit : Int) (model : ExecutionModel) (storage : StorageClass) :
    Traced (List LocatedVariable) := do
  (← t.locatedVariables storage).mapM fun (n, v) => do
    return ⟨model, n, v.entry.name?, ← t.shaderTypeOf limit (← t.typeOf v.decl.type.toNat)⟩

def inputs (t : IdTable) (limit : Int) (model : ExecutionModel) : Traced (List LocatedVariable) :=
  t.located limit model .input

def outputs (t : IdTable) (limit : Int) (model : ExecutionModel) : Traced (List LocatedVariable) :=
  t.located limit model .output

def slot? (v : DeclaredVariable) : Traced (Option Slot) := do
  let binding? ← v.entry.firstLiteral .binding
  let set? ← v.entry.firstLiteral .descriptorSet
  match binding?, set? with
  | some binding, some set => return some ⟨binding, set⟩
  | _, _ =>
    Traced.report [.bindingMissing v.id]
    return none

/-- Resolves each variable of a class that has a slot. -/
def bound {α : Type} (t : IdTable) (storage : StorageClass)
    (resolve : DeclaredVariable → Slot → Except Fault α) : Traced (List α) :=
  (t.declaredVariables storage) |> Traced.collect fun v => do
    match ← slot? v with
    | none => return none
    | some slot => return some (← resolve v slot)

def uniform (t : IdTable) (limit : Int) (model : ExecutionModel) (v : DeclaredVariable)
    (slot : Slot) : Except Fault Uniform := do
  return ⟨model, slot, v.entry.name?, ← t.shaderTypeOf limit (← t.typeOf v.decl.type.toNat)⟩

/-- A block is a struct behind a pointer, and bears the name of the struct. -/
def uniformBlock (t : IdTable) (limit : Int) (model : ExecutionModel) (v : DeclaredVariable)
    (slot : Slot) : Except Fault UniformBlock := do
  match ← t.typeOf v.decl.type.toNat with
  | .pointer _ target =>
    let entry ← t.lookup target.toNat
    match ← t.typeOf target.toNat with
    | .struct members =>
      match ← t.sizeOf limit (.struct members) with
      | some size => return ⟨model, slot, entry.name?, size⟩
      | none => throw (.unresolvedBlock target entry.name?)
    | type => throw (.notAStruct v.id type)
  | _ => throw (.notAPointer v.id)

def uniforms (t : IdTable) (limit : Int) (model : ExecutionModel) : Traced (List Uniform) :=
  t.bound .uniformConstant (t.uniform limit model)

def uniformBlocks (t : IdTable) (limit : Int) (model : ExecutionModel) :
    Traced (List UniformBlock) :=
  t.bound .uniform (t.uniformBlock limit model)

end IdTable

end ShaderInterface
