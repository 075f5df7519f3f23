import ShaderInterface.Numbered.Basic

namespace ShaderInterface

/-- The shader stage of an entry point; `unknown` holds every stage without a number here. -/
inductive ExecutionModel
  | vertex
  | tessellationControl
  | tessellationEvaluation
  | geometry
  | fragment
  | compute
  | unknown
  deriving DecidableEq

namespace ExecutionModel

def members : List ExecutionModel :=
  [.vertex, .tessellationControl, .tessellationEvaluation, .geometry, .fragment, .compute,
   .unknown]

def code : ExecutionModel → Int
  | vertex => 0
  | tessellationControl => 1
  | tessellationEvaluation => 2
  | geometry => 3
  | fragment => 4
  | compute => 5
  | unknown => -1

def name : ExecutionModel → String
  | vertex => "VERTEX"
  | tessellationControl => "TESSELLATION_CONTROL"
  | tessellationEvaluation => "TESSELLATION_EVALUATION"
  | geometry => "GEOMETRY"
  | fragment => "FRAGMENT"
  | compute => "COMPUTE"
  | unknown => "UNKNOWN"

end ExecutionModel

instance : Numbered ExecutionModel where
  family := "ExecutionModel"
  members := ExecutionModel.members
  code := ExecutionModel.code
  name := ExecutionModel.name
  mem_members a := by cases a <;> decide
  nodup_codes := by decide

end ShaderInterface
