import ShaderInterface.Numbered.StorageClass
import ShaderInterface.Numbered.Dimension
import ShaderInterface.Numbered.ImageFormat
import ShaderInterface.Numbered.AccessQualifier

namespace ShaderInterface

structure ImageDecl where
  sampledType : UInt32
  dimension : Dimension
  depth : Bool
  arrayed : Bool
  multisampled : Bool
  sampled : Bool
  format : ImageFormat
  access? : Option AccessQualifier
  deriving DecidableEq

/-- A declared type. Other types are named by their ids. -/
inductive TypeDecl
  | void
  | bool
  | int (width : UInt32) (signed : Bool)
  | float (width : UInt32)
  | vector (component count : UInt32)
  | matrix (column count : UInt32)
  | image (image : ImageDecl)
  | sampler
  | sampledImage (image : UInt32)
  | array (element length : UInt32)
  | struct (members : List UInt32)
  | pointer (storage : StorageClass) (target : UInt32)
  deriving DecidableEq

namespace TypeDecl

def describeFlag (b : Bool) : String :=
  if b then "True" else "False"

/-- Ids in parentheses; a single one keeps a comma. -/
def describeIds : List UInt32 → String
  | [] => "()"
  | [id] => s!"({id},)"
  | ids => "(" ++ ", ".intercalate (ids.map toString) ++ ")"

def describeRecord (name : String) (fields : List (String × String)) : String :=
  name ++ "(" ++ ", ".intercalate (fields.map fun f => f.1 ++ "=" ++ f.2) ++ ")"

/-- The form in which messages show a type: its kind, then every field by name. -/
def describe : TypeDecl → String
  | void => describeRecord "TypeVoid" []
  | bool => describeRecord "TypeBool" []
  | int width signed =>
    describeRecord "TypeInt" [("width", toString width), ("signed", describeFlag signed)]
  | float width => describeRecord "TypeFloat" [("width", toString width)]
  | vector component count =>
    describeRecord "TypeVector"
      [("component_type_id", toString component), ("count", toString count)]
  | matrix column count =>
    describeRecord "TypeMatrix"
      [("column_type_id", toString column), ("column_count", toString count)]
  | image i =>
    describeRecord "TypeImage"
      [("sampled_type_id", toString i.sampledType), ("dim", Numbered.describe i.dimension),
       ("depth", describeFlag i.depth), ("arrayed", describeFlag i.arrayed),
       ("multisampled", describeFlag i.multisampled), ("sampled", describeFlag i.sampled),
       ("format", Numbered.describe i.format),
       ("access_qualifier", (i.access?.map Numbered.describe).getD "None")]
  | sampler => describeRecord "TypeSampler" []
  | sampledImage id => describeRecord "TypeSampledImage" [("image_type_id", toString id)]
  | array element length =>
    describeRecord "TypeArray"
      [("element_type_id", toString element), ("length_id", toString length)]
  | struct members => describeRecord "TypeStruct" [("member_type_ids", describeIds members)]
  | pointer storage target =>
    describeRecord "TypePointer"
      [("storage_class", Numbered.describe storage), ("type_id", toString target)]

end TypeDecl

end ShaderInterface
