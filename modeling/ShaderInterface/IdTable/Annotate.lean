import ShaderInterface.IdTable.Basic

namespace ShaderInterface

/-- What can be added to an id without touching its type, its variable or its constant. -/
inductive Annotation
  | member (index : Int)
  | memberName (index : Int) (name? : Option String)
  | decoration (d : Decoration)
  deriving DecidableEq

namespace Entry

/-- Where a member stands or will stand. A negative index counts from the end and needs a member
that is there. -/
def memberPosition (e : Entry) (index : Int) : Except Fault Nat :=
  if 0 ≤ index then return index.toNat
  else if 0 ≤ index + e.members.length then return (index + e.members.length).toNat
  else throw (.noMember index)

def annotate (e : Entry) : Annotation → Except Fault Entry
  | .member index => return e.modifyMember (← e.memberPosition index) fun m => m
  | .memberName index name? => return e.nameMember (← e.memberPosition index) name?
  | .decoration d => return e.decorate d

end Entry

/-- The table with an annotation added to an id in it. -/
def IdTable.annotate (t : IdTable) (id : Int) (a : Annotation) : Except Fault IdTable := do
  let e ← (← t.lookup id).annotate a
  return ⟨t.entries.modify id.toNat fun _ => e⟩

end ShaderInterface
