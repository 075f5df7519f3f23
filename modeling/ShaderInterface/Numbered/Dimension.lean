import ShaderInterface.Numbered.Basic

namespace ShaderInterface

inductive Dimension
  | oneD
  | twoD
  | threeD
  | cube
  | rect
  | buffer
  | subpassData
  deriving DecidableEq

namespace Dimension

def members : List Dimension :=
  [.oneD, .twoD, .threeD, .cube, .rect, .buffer, .subpassData]

def code : Dimension → Int
  | oneD => 0
  | twoD => 1
  | threeD => 2
  | cube => 3
  | rect => 4
  | buffer => 5
  | subpassData => 6

def name : Dimension → String
  | oneD => "DIM_1D"
  | twoD => "DIM_2D"
  | threeD => "DIM_3D"
  | cube => "CUBE"
  | rect => "RECT"
  | buffer => "BUFFER"
  | subpassData => "SUBPASS_DATA"

end Dimension

instance : Numbered Dimension where
  family := "Dim"
  members := Dimension.members
  code := Dimension.code
  name := Dimension.name
  mem_members a := by cases a <;> decide
  nodup_codes := by decide

end ShaderInterface
