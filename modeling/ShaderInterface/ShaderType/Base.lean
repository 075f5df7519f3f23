import ShaderInterface.Numbered.Dimension

namespace ShaderInterface

inductive ScalarKind
  | bool
  | int
  | uint
  | float
  | double
  deriving DecidableEq

namespace ScalarKind

def members : List ScalarKind := [.bool, .int, .uint, .float, .double]

def name : ScalarKind → String
  | bool => "bool"
  | int => "int"
  | uint => "uint"
  | float => "float"
  | double => "double"

/-- What stands before `vec` in the name of a vector of this kind. -/
def vectorMark : ScalarKind → String
  | bool => "b"
  | int => "i"
  | uint => "u"
  | float => ""
  | double => "d"

end ScalarKind

inductive VectorSize
  | two
  | three
  | four
  deriving DecidableEq

namespace VectorSize

def members : List VectorSize := [.two, .three, .four]

def toNat : VectorSize → Nat
  | two => 2
  | three => 3
  | four => 4

def ofNat? (n : Nat) : Option VectorSize :=
  members.find? (·.toNat == n)

end VectorSize

/-- The dimensions in which an image can be addressed in a shader. -/
inductive ImageShape
  | oneD
  | oneDArray
  | twoD
  | twoDArray
  | twoDMultisampled
  | twoDMultisampledArray
  | threeD
  | cube
  | cubeArray
  | rect
  | buffer
  deriving DecidableEq

namespace ImageShape

def members : List ImageShape :=
  [.oneD, .oneDArray, .twoD, .twoDArray, .twoDMultisampled, .twoDMultisampledArray, .threeD, .cube,
   .cubeArray, .rect, .buffer]

def name : ImageShape → String
  | oneD => "1D"
  | oneDArray => "1DArray"
  | twoD => "2D"
  | twoDArray => "2DArray"
  | twoDMultisampled => "2DMS"
  | twoDMultisampledArray => "2DMSArray"
  | threeD => "3D"
  | cube => "Cube"
  | cubeArray => "CubeArray"
  | rect => "2DRect"
  | buffer => "Buffer"

def hasShadow : ImageShape → Bool
  | oneD | oneDArray | twoD | twoDArray | cube | cubeArray | rect => true
  | twoDMultisampled | twoDMultisampledArray | threeD | buffer => false

def ofImage? : (dimension : Dimension) → (arrayed multisampled : Bool) → Option ImageShape
  | .oneD, false, false => some oneD
  | .oneD, true, false => some oneDArray
  | .twoD, false, false => some twoD
  | .twoD, true, false => some twoDArray
  | .twoD, false, true => some twoDMultisampled
  | .twoD, true, true => some twoDMultisampledArray
  | .threeD, false, false => some threeD
  | .cube, false, false => some cube
  | .cube, true, false => some cubeArray
  | .rect, false, false => some rect
  | .buffer, false, false => some buffer
  | _, _, _ => none

end ImageShape

/-- A type of the shading language that is not an array. -/
inductive BaseType
  | scalar (kind : ScalarKind)
  | vector (kind : ScalarKind) (size : VectorSize)
  | image (shape : ImageShape)
  | sampler (shape : ImageShape)
  | shadowSampler (shape : ImageShape) (comparable : shape.hasShadow = true)
  deriving DecidableEq

namespace BaseType

def name : BaseType → String
  | scalar kind => kind.name
  | vector kind size => kind.vectorMark ++ "vec" ++ toString size.toNat
  | image shape => "image" ++ shape.name
  | sampler shape => "sampler" ++ shape.name
  | shadowSampler shape _ => "sampler" ++ shape.name ++ "Shadow"

def members : List BaseType :=
  ScalarKind.members.map scalar
    ++ ScalarKind.members.flatMap (fun kind => VectorSize.members.map (vector kind))
    ++ ImageShape.members.map image
    ++ ImageShape.members.map sampler
    ++ ImageShape.members.filterMap fun shape =>
      if h : shape.hasShadow = true then some (shadowSampler shape h) else none

def ofName? (text : String) : Option BaseType :=
  members.find? (·.name == text)

def isImage : BaseType → Bool
  | image _ => true
  | _ => false

def isSampler : BaseType → Bool
  | sampler _ | shadowSampler _ _ => true
  | _ => false

/-- Samplers and images are handles and have no bytes of their own. -/
def isOpaque (t : BaseType) : Bool :=
  t.isSampler || t.isImage

/-- The sampler of an image shape, comparing against a depth or not. -/
def sampler? (depth : Bool) (shape : ImageShape) : Option BaseType :=
  if depth then
    if h : shape.hasShadow = true then some (shadowSampler shape h) else none
  else some (sampler shape)

end BaseType

end ShaderInterface
