import ShaderInterface.IdTable.Layout
import ShaderInterface.Interface.Variable
import ShaderInterface.LatestBy

namespace ShaderInterface

structure Field where
  name : String
  layout : Layout
  offset : Nat
  deriving DecidableEq

def Field.stop (f : Field) : Nat :=
  f.offset + f.layout.size

structure RecordLayout where
  fields : List Field
  size : Nat
  deriving DecidableEq

namespace RecordLayout

/-- Each part right behind the one before. -/
def place (offset : Nat) : List (String × Layout) → List Field
  | [] => []
  | (name, layout) :: rest => ⟨name, layout, offset⟩ :: place (offset + layout.size) rest

/-- Fields called `names` and `formats` together are taken for the columns of a layout, which are
never well formed. -/
def columnFault? (names : List String) : Option Fault :=
  if names.contains "names" && names.contains "formats" then
    if names.contains "aligned" then some .alignedNotAFlag
    else if names.contains "offsets" then some .offsetsNotNumbers
    else some .namesNotTexts
  else none

def maxOffset : Nat := 0x7FFFFFFF

/-- Packs named parts. Of parts with one name the last stays, at its own offset. -/
def pack (parts : List (String × Layout)) : Except Fault RecordLayout :=
  let fields := latestBy (·.name) (place 0 parts)
  match columnFault? (fields.map (·.name)) with
  | some fault => throw fault
  | none =>
    if fields.any (maxOffset < ·.offset) then throw .offsetTooLarge
    else
      return ⟨fields.mergeSort fun a b => a.offset ≤ b.offset, (fields.map Field.stop).foldr max 0⟩

end RecordLayout

namespace IdTable

def fieldName (n : Int) (v : DeclaredVariable) : String :=
  Fault.nameOr s!"location{n}" v.entry.name?

def inputLayout (t : IdTable) (limit : Int) : Traced RecordLayout := do
  let located := (← t.locatedVariables .input).mergeSort fun a b => a.1 ≤ b.1
  let parts ← located.mapM fun (n, v) => do
    return (fieldName n v, ← t.layoutOf limit (← t.typeOf v.decl.type.toNat))
  RecordLayout.pack parts

end IdTable

end ShaderInterface
